import AngularLint.Proofs.FixPasses
import AngularLint.Proofs.NodeSpans
import AngularLint.Proofs.StoreShape

/-! Linting many files. The search yields files in order, and does not depend on what is repaired on
the way. Each file is taken in turn: linted, or noted as unreadable, whatever becomes of the others.
Only a path that can name no file at all brings the batch to a stop. -/

namespace AngularLint.Proofs.BatchResults
open FileWrite FixPasses NodeBuild NodeSpans Outcomes StoreShape

variable {grammar : Grammar} {engine : Engine} {fix : Bool} {store : FileStore} {path : FilePath}

/-- A grammar that makes of every text a tree that fits it. -/
def Dependable (grammar : Grammar) : Prop :=
  ∀ text markup, ∃ parse, grammar.parse? text markup = some parse ∧
    ∀ part ∈ reachable parse.tree, Fits text part

/-- The source files under some paths, as far as the search gets, and what ends it early. -/
def yielded (store : FileStore) : List FilePath → List FilePath × Option FileFault
  | [] => ([], none)
  | path :: rest =>
    match sourcesAt store path with
    | .error fault => ([], some fault)
    | .ok sources => (sources ++ (yielded store rest).1, (yielded store rest).2)

/-- Each file is in one of the two lists, and both are in the order of the files: what is linted is
what it is on its own, and so is the reason why a file cannot be read. -/
inductive Divided (grammar : Grammar) (engine : Engine) (store : FileStore) :
    List FilePath → List LintedFile → List (FilePath × FileFault) → Prop where
  | nil : Divided grammar engine store [] [] []
  | linted {path : FilePath} {files : List FilePath} {results : List LintedFile}
      {unreadable : List (FilePath × FileFault)} {outcome : FileOutcome}
      (done : lintFile grammar engine false store path = .ok outcome)
      (rest : Divided grammar engine store files results unreadable) :
      Divided grammar engine store (path :: files) (outcome.linted :: results) unreadable
  | skipped {path : FilePath} {files : List FilePath} {results : List LintedFile}
      {unreadable : List (FilePath × FileFault)} {fault : FileFault}
      (failed : lintFile grammar engine false store path = .error (.file fault))
      (rest : Divided grammar engine store files results unreadable) :
      Divided grammar engine store (path :: files) results ((path, fault) :: unreadable)

/-- How the outcome of linting a file comes about: from the state in which the file is read, by
passes that each apply a fix. -/
structure Linted (grammar : Grammar) (engine : Engine) (fix : Bool) (store : FileStore)
    (path : FilePath) (outcome : FileOutcome) (start : LintedFile) (counts : List Nat) : Prop where
  readable : store.readText path = .ok start.file.text
  fresh : start.fixed = 0
  leads : Leads grammar engine path.text start outcome.linted counts
  few : counts.length ≤ if fix then maxFixPasses else 0
  kept : outcome.store = if outcome.linted.fixed = 0 then store
    else store.writeText path outcome.linted.file.text

theorem lintFile_linted {outcome : FileOutcome}
    (done : lintFile grammar engine fix store path = .ok outcome) :
    ∃ start counts, Linted grammar engine fix store path outcome start counts := by
  rw [lintFile] at done
  split at done
  next => cases done
  next text readable =>
    split at done
    next => cases done
    next start linting =>
      obtain ⟨rfl, named, fresh, described⟩ := lintText_ok linting
      rcases fixPasses_leads (if fix then maxFixPasses else 0) described named start.log with
        ⟨last, log, counts, ended, leads, few, _⟩ | ⟨fault, _, failed, _⟩
      · simp only [ended] at done
        cases done
        have same := ofLinted_linted store path last log
        refine ⟨start, counts, readable, fresh, same.symm ▸ leads, few, ?_⟩
        rw [same, ofLinted_store]
      · simp only [failed] at done
        cases done

theorem Linted.idle_iff {outcome : FileOutcome} {start : LintedFile} {counts : List Nat}
    (linted : Linted grammar engine fix store path outcome start counts) :
    outcome.linted.fixed = 0 ↔ counts = [] := by
  rw [linted.leads.fixed, linted.fresh, Nat.zero_add, total_eq_zero_iff linted.leads.applied]

theorem lintFile_described {outcome : FileOutcome}
    (done : lintFile grammar engine fix store path = .ok outcome) :
    Described grammar engine path.text outcome.linted := by
  obtain ⟨_, _, linted⟩ := lintFile_linted done
  exact linted.leads.described

theorem lintFile_alike {outcome : FileOutcome}
    (done : lintFile grammar engine fix store path = .ok outcome) :
    Alike store outcome.store := by
  obtain ⟨_, _, linted⟩ := lintFile_linted done
  rw [linted.kept]
  split
  · exact .refl store
  · exact writeText_alike store path _

/-- Without repair the store stays as it is. -/
theorem lintFile_unfixed {outcome : FileOutcome}
    (done : lintFile grammar engine false store path = .ok outcome) : outcome.store = store := by
  obtain ⟨_, counts, linted⟩ := lintFile_linted done
  have none : counts = [] := List.length_eq_zero_iff.mp (Nat.le_zero.mp linted.few)
  rw [linted.kept, if_pos (linted.idle_iff.mpr none)]

/-- What taking in one file does to a batch. -/
inductive Takes (grammar : Grammar) (engine : Engine) (fix : Bool) (path : FilePath)
    (batch next : Batch) : Prop where
  | linted (outcome : FileOutcome)
      (done : lintFile grammar engine fix batch.store path = .ok outcome)
      (results : next.results = batch.results ++ [outcome.linted])
      (unreadable : next.unreadable = batch.unreadable) (kept : next.store = outcome.store)
  | skipped (fault : FileFault)
      (failed : lintFile grammar engine fix batch.store path = .error (.file fault))
      (results : next.results = batch.results)
      (unreadable : next.unreadable = batch.unreadable ++ [(path, fault)])
      (kept : next.store = batch.store)

theorem add_takes {batch next : Batch}
    (taken : Batch.add grammar engine fix batch path = .ok next) :
    Takes grammar engine fix path batch next := by
  rw [Batch.add] at taken
  split at taken
  next outcome done =>
    cases taken
    exact .linted outcome done rfl rfl rfl
  next fault failed =>
    split at taken
    · cases taken
      exact .skipped fault failed rfl rfl rfl
    · cases taken
  next => cases taken

theorem Takes.alike {batch next : Batch} (takes : Takes grammar engine fix path batch next) :
    Alike batch.store next.store := by
  cases takes with
  | linted outcome done _ _ kept => exact kept ▸ lintFile_alike done
  | skipped _ _ _ _ kept => exact kept ▸ .refl batch.store

theorem foldlM_alike {files : List FilePath} {batch last : Batch}
    (taken : files.foldlM (Batch.add grammar engine fix) batch = .ok last) :
    Alike batch.store last.store := by
  induction files generalizing batch with
  | nil =>
    cases taken
    exact .refl _
  | cons path rest ih =>
    obtain ⟨next, first, later⟩ := bind_eq_ok_iff.mp taken
    exact (add_takes first).alike.trans (ih later)

theorem yielded_alike {before after : FileStore} (alike : Alike before after)
    (paths : List FilePath) : yielded after paths = yielded before paths := by
  induction paths with
  | nil => rfl
  | cons path rest ih => rw [yielded, yielded, alike.sourcesAt, ih]

/-- How a batch ends that has taken in the files of a search. -/
def ended (taken : Except LintFault Batch) (unsearchable : Option FileFault) : BatchEnd :=
  match taken, unsearchable with
  | .error fault, _ => .stopped fault
  | .ok last, none => .finished last
  | .ok last, some fault => .unsearchable last fault

/-- The files of the search are taken in one after the other, as if all were known at the start. -/
theorem lintPaths_eq (batch : Batch) (paths : List FilePath) :
    lintPaths grammar engine fix batch paths =
      ended ((yielded batch.store paths).1.foldlM (Batch.add grammar engine fix) batch)
        (yielded batch.store paths).2 := by
  induction paths generalizing batch with
  | nil => rfl
  | cons path rest ih =>
    rw [lintPaths, yielded]
    cases sourcesAt batch.store path with
    | error fault => rfl
    | ok sources =>
      dsimp only
      rw [List.foldlM_append]
      cases taken : sources.foldlM (Batch.add grammar engine fix) batch with
      | error fault => rfl
      | ok next =>
        rw [← yielded_alike (foldlM_alike taken) rest]
        exact ih next

/-- A path that can name a file: no zero byte is in it. -/
def Nameable (path : FilePath) : Prop :=
  '\x00' ∉ path.text.toList

theorem locateFrom_skippable {text : String} {place : Place} {parts : List String}
    {fault : FileFault} (failed : store.locateFrom text place parts = .error fault) :
    fault.isSkippable = true := by
  induction parts generalizing place with
  | nil => cases failed
  | cons part rest ih =>
    rw [FileStore.locateFrom] at failed
    split at failed
    · cases failed
      rfl
    · cases failed
      rfl
    · split at failed
      · cases failed
        rfl
      · exact ih failed

theorem locate_skippable {fault : FileFault} (nameable : Nameable path)
    (failed : store.locate path = .error fault) : fault.isSkippable = true := by
  have named : path.text.toList.contains '\x00' = false := by
    rw [Bool.eq_false_iff, Ne, List.contains_iff_mem]
    exact nameable
  simp only [FileStore.locate, named, Bool.false_eq_true, if_false] at failed
  split at failed
  · cases failed
    rfl
  · split at failed
    next away =>
      cases failed
      exact locateFrom_skippable away
    next =>
      split at failed
      · cases failed
        rfl
      · cases failed

theorem readText_skippable {fault : FileFault} (nameable : Nameable path)
    (failed : store.readText path = .error fault) : fault.isSkippable = true := by
  rw [FileStore.readText] at failed
  split at failed
  next away =>
    cases failed
    exact locate_skippable nameable away
  next =>
    cases failed
    rfl
  next =>
    split at failed
    · cases failed
      rfl
    · cases failed

theorem readText_unnameable (unnameable : ¬ Nameable path) :
    store.readText path = .error .nullInPath := by
  have null : path.text.toList.contains '\x00' = true :=
    List.contains_iff_mem.mpr (not_not.mp unnameable)
  rw [FileStore.readText, FileStore.locate, if_pos null]

theorem parse_dependable (dependable : Dependable grammar) (filename text : String) :
    ∃ file, SourceFile.parse grammar filename text = .ok file := by
  obtain ⟨parse, read, fits⟩ := dependable text (Text.endsWith filename ".tsx")
  obtain ⟨root, node, _⟩ := fitting_models fits
  exact ⟨_, parse_of_toNode node read⟩

/-- With a dependable grammar a file fails only if it cannot be read. -/
theorem lintFile_cases (dependable : Dependable grammar) (engine : Engine) (fix : Bool)
    (store : FileStore) (path : FilePath) :
    (∃ outcome, lintFile grammar engine fix store path = .ok outcome) ∨
      ∃ fault, store.readText path = .error fault ∧
        lintFile grammar engine fix store path = .error (.file fault) := by
  rw [lintFile]
  cases store.readText path with
  | error fault => exact .inr ⟨fault, rfl, rfl⟩
  | ok text =>
    left
    obtain ⟨file, parsed⟩ := parse_dependable dependable path.text text
    have linting : lintText grammar engine path.text text = .ok ⟨file, engine.run file, 0⟩ := by
      rw [lintText, parsed]
      rfl
    obtain ⟨_, named, _, described⟩ := lintText_ok linting
    simp only [linting]
    rcases fixPasses_leads (if fix then maxFixPasses else 0) described named
        (LintedFile.log ⟨file, engine.run file, 0⟩) with
      ⟨last, log, _, ended, _⟩ | ⟨fault, _, _, broken, _⟩
    · rw [ended]
      exact ⟨_, rfl⟩
    · obtain ⟨last, _, unparsed⟩ := broken.unparsed
      obtain ⟨file, parsed⟩ := parse_dependable dependable path.text last
      cases parsed.symm.trans unparsed

theorem add_nameable (dependable : Dependable grammar) (nameable : Nameable path)
    (batch : Batch) : ∃ next, Batch.add grammar engine fix batch path = .ok next := by
  rw [Batch.add]
  rcases lintFile_cases dependable engine fix batch.store path with
    ⟨outcome, done⟩ | ⟨fault, unread, failed⟩
  · rw [done]
    exact ⟨_, rfl⟩
  · rw [failed]
    simp only [readText_skippable nameable unread, if_true]
    exact ⟨_, rfl⟩

theorem add_unnameable (unnameable : ¬ Nameable path) (batch : Batch) :
    Batch.add grammar engine fix batch path = .error (.file .nullInPath) := by
  have failed : lintFile grammar engine fix batch.store path = .error (.file .nullInPath) := by
    rw [lintFile, readText_unnameable unnameable]
  rw [Batch.add, failed]
  rfl

theorem foldlM_nameable (dependable : Dependable grammar) {files : List FilePath}
    (nameable : ∀ path ∈ files, Nameable path) (batch : Batch) :
    ∃ last, files.foldlM (Batch.add grammar engine fix) batch = .ok last := by
  induction files generalizing batch with
  | nil => exact ⟨batch, rfl⟩
  | cons path rest ih =>
    obtain ⟨first, others⟩ := List.forall_mem_cons.mp nameable
    obtain ⟨next, taken⟩ := add_nameable dependable first batch
    obtain ⟨last, later⟩ := ih others next
    exact ⟨last, bind_eq_ok_iff.mpr ⟨next, taken, later⟩⟩

/-- A file with a path that can name nothing stops the batch, wherever it stands. -/
theorem foldlM_unnameable (dependable : Dependable grammar) {files : List FilePath}
    (unnameable : ∃ path ∈ files, ¬ Nameable path) (batch : Batch) :
    files.foldlM (Batch.add grammar engine fix) batch = .error (.file .nullInPath) := by
  induction files generalizing batch with
  | nil =>
    obtain ⟨_, none, _⟩ := unnameable
    cases none
  | cons path rest ih =>
    rw [List.foldlM_cons]
    by_cases nameable : Nameable path
    · obtain ⟨next, taken⟩ := add_nameable dependable nameable batch
      rw [taken]
      obtain ⟨other, member, away⟩ := unnameable
      rcases List.mem_cons.mp member with rfl | later
      · exact absurd nameable away
      · exact ih ⟨other, later, away⟩ next
    · rw [add_unnameable nameable]
      rfl

/-- Without repair, the files that are taken in are divided by what each of them is on its own. -/
theorem foldlM_divided {files : List FilePath} {batch last : Batch}
    (taken : files.foldlM (Batch.add grammar engine false) batch = .ok last) :
    last.store = batch.store ∧ ∃ results unreadable,
      last.results = batch.results ++ results ∧
      last.unreadable = batch.unreadable ++ unreadable ∧
      Divided grammar engine batch.store files results unreadable := by
  induction files generalizing batch with
  | nil =>
    cases taken
    exact ⟨rfl, [], [], (List.append_nil _).symm, (List.append_nil _).symm, .nil⟩
  | cons path rest ih =>
    obtain ⟨next, first, later⟩ := bind_eq_ok_iff.mp taken
    obtain ⟨same, results, unreadable, linted, skipped, divided⟩ := ih later
    cases add_takes first with
    | linted outcome done grown others kept =>
      rw [kept, lintFile_unfixed done] at same divided
      refine ⟨same, outcome.linted :: results, unreadable, ?_, ?_, .linted done divided⟩
      · rw [linted, grown, List.append_assoc, List.singleton_append]
      · rw [skipped, others]
    | skipped fault failed others grown kept =>
      rw [kept] at same divided
      refine ⟨same, results, (path, fault) :: unreadable, ?_, ?_, .skipped failed divided⟩
      · rw [linted, others]
      · rw [skipped, grown, List.append_assoc, List.singleton_append]

/-- Every result is the report of the engine on the file that it names. -/
theorem foldlM_described {files : List FilePath} {batch last : Batch}
    (taken : files.foldlM (Batch.add grammar engine fix) batch = .ok last)
    (before : ∀ linted ∈ batch.results, linted.report = engine.run linted.file) :
    ∀ linted ∈ last.results, linted.report = engine.run linted.file := by
  induction files generalizing batch with
  | nil =>
    cases taken
    exact before
  | cons path rest ih =>
    obtain ⟨next, first, later⟩ := bind_eq_ok_iff.mp taken
    refine ih later ?_
    cases add_takes first with
    | linted outcome done grown _ _ =>
      rw [grown, List.forall_mem_append, List.forall_mem_singleton]
      exact ⟨before, (lintFile_described done).report⟩
    | skipped _ _ others _ _ =>
      rw [others]
      exact before

end AngularLint.Proofs.BatchResults
