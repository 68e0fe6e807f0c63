import AngularLint.Lint.Run
import AngularLint.Proofs.BatchResults

/-! What a run says in the end. The exit status, the totals and the lines that are printed are made
from the same batch in different ways, and they agree: all findings are errors or warnings, since no
rule that is off is ever heard. -/

namespace AngularLint.Proofs.ExitStatus
open BatchResults FindingOrigin NodeBuild NodeSpans Outcomes ReportSoundness

/-- A printed line, by what it tells of. -/
inductive Line where
  | finding (text : String)
  /-- A rule that has failed, or how many fixes there were. -/
  | remark (text : String)
  | complaint (text : String)
  | summary (totals : Totals)

def summaryText (totals : Totals) : String :=
  s!"{totals.problems} problem(s) ({totals.errors} error(s), {totals.warnings} warning(s)), " ++
    s!"{totals.faults} rule fault(s), {totals.unreadable} unreadable file(s)"

def Line.output : Line → Output
  | .finding text => .out text
  | .remark text => .out text
  | .complaint text => .err text
  | .summary totals => .out (summaryText totals)

def Line.isFinding : Line → Bool
  | .finding _ => true
  | _ => false

/-- What there is to say about a file besides its findings. -/
def remarks (linted : LintedFile) : List String :=
  (linted.report.faults.map fun fault =>
    s!"{linted.report.path}: rule {fault.rule} failed on {fault.event}: {fault.error}") ++
    if linted.fixed == 0 then [] else [s!"{linted.report.path}: fixed {linted.fixed} problem(s)"]

def fileLines (linted : LintedFile) : List Line :=
  (linted.report.diagnostics.map fun diagnostic => .finding (diagnostic.line linted.file)) ++
    (remarks linted).map .remark

def summaryLines (batch : Batch) : List Line :=
  let totals := Totals.ofBatch batch
  if totals.problems == 0 && totals.faults == 0 && totals.unreadable == 0 then []
  else [.summary totals]

/-- All lines that a run prints about its files. -/
def transcript (batch : Batch) : List Line :=
  batch.results.flatMap fileLines ++ batch.complaints.map .complaint ++ summaryLines batch

theorem fileLines_output (linted : LintedFile) :
    (fileLines linted).map Line.output = linted.lines.map .out := by
  simp only [fileLines, remarks, LintedFile.lines, List.map_append, List.map_map, List.append_assoc]
  rfl

theorem summaryLines_output (batch : Batch) :
    (summaryLines batch).map Line.output = (Totals.ofBatch batch).lines.map .out := by
  simp only [summaryLines, Totals.lines]
  split <;> rfl

theorem outputs_eq (batch : Batch) :
    batch.result.outputs = batch.log.map .log ++ (transcript batch).map Line.output := by
  have files : (batch.results.flatMap fileLines).map Line.output =
      (batch.results.flatMap LintedFile.lines).map .out := by
    rw [List.map_flatMap, List.map_flatMap]
    exact congrArg (batch.results.flatMap ·) (funext fileLines_output)
  have complaints : (batch.complaints.map Line.complaint).map Line.output =
      batch.complaints.map .err := by
    rw [List.map_map]
    rfl
  simp only [Batch.result, transcript, List.map_append, files, complaints, summaryLines_output,
    List.append_assoc]

theorem countP_fileLines (linted : LintedFile) :
    (fileLines linted).countP Line.isFinding = linted.report.diagnostics.length := by
  have silent : ((remarks linted).map Line.remark).countP Line.isFinding = 0 := by
    rw [List.countP_eq_zero]
    simp [Line.isFinding]
  rw [fileLines, List.countP_append, silent, List.countP_map]
  exact congrFun List.countP_true _

/-- There is one line for each finding, and no other line counts as one. -/
theorem countP_transcript (batch : Batch) :
    (transcript batch).countP Line.isFinding =
      (batch.results.flatMap fun linted => linted.report.diagnostics).length := by
  have complaints : (batch.complaints.map Line.complaint).countP Line.isFinding = 0 := by
    rw [List.countP_eq_zero]
    simp [Line.isFinding]
  have summary : (summaryLines batch).countP Line.isFinding = 0 := by
    rw [summaryLines]
    split <;> rfl
  rw [transcript, List.countP_append, List.countP_append, complaints, summary, List.countP_flatMap,
    List.length_flatMap]
  exact congrArg (fun count => (batch.results.map count).sum) (funext countP_fileLines)

theorem run_on {rules : List Rule} {severities : OrderedMap String Severity}
    {options : OrderedMap String JsonObject} {engine : Engine}
    (configured : Engine.configure rules severities options = .ok engine) (file : SourceFile) :
    ∀ diagnostic ∈ (engine.run file).diagnostics, diagnostic.severity ≠ .off := by
  intro diagnostic member
  obtain ⟨root, _, active, activated, finding, _, completed⟩ :=
    run_origin engine file diagnostic member
  rw [(complete_sound completed).1.severity]
  exact (configure_settled configured active activated).on

/-- Findings that are not off are errors or warnings. -/
theorem countOf_add {results : List LintedFile}
    (on : ∀ linted ∈ results, ∀ diagnostic ∈ linted.report.diagnostics,
      diagnostic.severity ≠ .off) :
    countOf .error results + countOf .warn results =
      (results.flatMap fun linted => linted.report.diagnostics).length := by
  have counted (diagnostics : List Diagnostic)
      (on : ∀ diagnostic ∈ diagnostics, diagnostic.severity ≠ .off) :
      (diagnostics.countP fun diagnostic => diagnostic.severity == .error) +
        (diagnostics.countP fun diagnostic => diagnostic.severity == .warn) =
          diagnostics.length := by
    induction diagnostics with
    | nil => rfl
    | cons diagnostic rest ih =>
      obtain ⟨first, others⟩ := List.forall_mem_cons.mp on
      have later := ih others
      rw [List.countP_cons, List.countP_cons, List.length_cons]
      cases severity : diagnostic.severity with
      | off => exact absurd severity first
      | warn =>
        simp only [beq_self_eq_true, if_true, reduceCtorEq, beq_iff_eq, if_false]
        omega
      | error =>
        simp only [beq_self_eq_true, if_true, reduceCtorEq, beq_iff_eq, if_false]
        omega
  apply counted
  intro diagnostic member
  obtain ⟨linted, inside, reported⟩ := List.mem_flatMap.mp member
  exact on linted inside diagnostic reported

/-- The status, the totals and the printed lines of a run agree with each other and with the
batch. -/
structure Accounted (batch : Batch) (result : Result) : Prop where
  printed : result.outputs = batch.log.map .log ++ (transcript batch).map Line.output
  trouble : batch.unreadable ≠ [] → result.status = 2
  gate : batch.unreadable = [] → (result.status = 1 ↔
    ∃ linted ∈ batch.results, ∃ diagnostic ∈ linted.report.diagnostics,
      diagnostic.severity = .error)
  clean : batch.unreadable = [] → result.status ≠ 1 → result.status = 0
  totals : ∀ totals, .summary totals ∈ transcript batch → totals = .ofBatch batch
  problems : (Totals.ofBatch batch).problems =
      (Totals.ofBatch batch).errors + (Totals.ofBatch batch).warnings ∧
    (Totals.ofBatch batch).problems = (transcript batch).countP Line.isFinding
  errors : batch.unreadable = [] → (result.status = 1 ↔ 0 < (Totals.ofBatch batch).errors)
  summarised : (∃ totals, .summary totals ∈ transcript batch) ↔
    (∃ linted ∈ batch.results, linted.report.diagnostics ≠ [] ∨ linted.report.faults ≠ []) ∨
      batch.unreadable ≠ []

theorem status_eq_one_iff {batch : Batch} (readable : batch.unreadable = []) :
    batch.status = 1 ↔ ∃ linted ∈ batch.results, ∃ diagnostic ∈ linted.report.diagnostics,
      diagnostic.severity = .error := by
  rw [Batch.status, readable]
  cases failed : batch.results.any fun linted => anyError linted.report.diagnostics with
  | false =>
    simp only [List.any_eq_false, anyError, List.any_eq_true, beq_iff_eq, not_exists,
      not_and] at failed
    refine iff_of_false Nat.zero_ne_one ?_
    rintro ⟨linted, inside, diagnostic, reported, isError⟩
    exact failed linted inside diagnostic reported isError
  | true =>
    simp only [List.any_eq_true, anyError, beq_iff_eq] at failed
    exact iff_of_true rfl failed

theorem errors_pos_iff {results : List LintedFile} :
    0 < countOf .error results ↔
      ∃ linted ∈ results, ∃ diagnostic ∈ linted.report.diagnostics,
        diagnostic.severity = .error := by
  rw [countOf, List.countP_pos_iff]
  simp only [List.mem_flatMap, beq_iff_eq]
  constructor
  · rintro ⟨diagnostic, ⟨linted, inside, reported⟩, isError⟩
    exact ⟨linted, inside, diagnostic, reported, isError⟩
  · rintro ⟨linted, inside, diagnostic, reported, isError⟩
    exact ⟨diagnostic, ⟨linted, inside, reported⟩, isError⟩

theorem summary_mem_iff (batch : Batch) (totals : Totals) :
    .summary totals ∈ transcript batch ↔ .summary totals ∈ summaryLines batch := by
  rw [transcript, List.mem_append]
  constructor
  · rintro (early | last)
    · rcases List.mem_append.mp early with filed | complained
      · obtain ⟨linted, _, line⟩ := List.mem_flatMap.mp filed
        simp [fileLines] at line
      · simp at complained
    · exact last
  · exact .inr

theorem summarised_iff (batch : Batch) :
    (∃ totals, .summary totals ∈ transcript batch) ↔ summaryLines batch ≠ [] := by
  simp only [summary_mem_iff]
  rw [summaryLines]
  split
  · simp
  · exact iff_of_true ⟨_, List.mem_singleton_self _⟩ (List.cons_ne_nil _ _)

/-- Nothing is summed up only if there is nothing to count. -/
theorem summaryLines_eq_nil_iff {batch : Batch}
    (on : ∀ linted ∈ batch.results, ∀ diagnostic ∈ linted.report.diagnostics,
      diagnostic.severity ≠ .off) :
    summaryLines batch = [] ↔
      (∀ linted ∈ batch.results, linted.report.diagnostics = [] ∧ linted.report.faults = []) ∧
        batch.unreadable = [] := by
  have problems : (Totals.ofBatch batch).problems =
      (batch.results.flatMap fun linted => linted.report.diagnostics).length := countOf_add on
  have faults : (Totals.ofBatch batch).faults =
      (batch.results.flatMap fun linted => linted.report.faults).length := rfl
  have unreadable : (Totals.ofBatch batch).unreadable = batch.unreadable.length := rfl
  simp only [summaryLines, problems, faults, unreadable, ite_eq_left_iff, List.cons_ne_nil,
    imp_false, not_not, Bool.and_eq_true, beq_iff_eq, List.length_eq_zero_iff,
    List.flatMap_eq_nil_iff, ← forall₂_and]

theorem result_accounted {rules : List Rule} {severities : OrderedMap String Severity}
    {options : OrderedMap String JsonObject} {engine : Engine}
    (configured : Engine.configure rules severities options = .ok engine) {batch : Batch}
    (described : ∀ linted ∈ batch.results, linted.report = engine.run linted.file) :
    Accounted batch batch.result := by
  have on : ∀ linted ∈ batch.results, ∀ diagnostic ∈ linted.report.diagnostics,
      diagnostic.severity ≠ .off := by
    intro linted inside
    rw [described linted inside]
    exact run_on configured linted.file
  refine ⟨outputs_eq batch, ?_, status_eq_one_iff, ?_, ?_, ⟨rfl, ?_⟩, ?_, ?_⟩
  · intro unread
    have some : batch.unreadable.isEmpty = false := List.isEmpty_eq_false_iff.mpr unread
    simp only [Batch.result, Batch.status, some]
    rfl
  · intro readable failed
    rw [Batch.result, Batch.status, readable] at failed ⊢
    split at failed
    next unread => cases unread
    next =>
      split at failed
      · exact absurd rfl failed
      next clean => exact if_neg clean
  · intro totals member
    rw [summary_mem_iff, summaryLines] at member
    split at member
    · cases member
    · cases List.mem_singleton.mp member
      rfl
  · rw [countP_transcript]
    exact countOf_add on
  · intro readable
    exact (status_eq_one_iff readable).trans errors_pos_iff.symm
  · rw [summarised_iff, Ne, summaryLines_eq_nil_iff on, Classical.not_and_iff_not_or_not]
    simp only [not_forall, Classical.not_and_iff_not_or_not, exists_prop, ne_eq]

theorem engine_configured {request : Request} {environment : Option String} {engine : Engine}
    (valid : request.engine environment = .ok engine) :
    ∃ severities options, Engine.configure registry severities options = .ok engine := by
  rw [Request.engine] at valid
  split at valid
  next => cases valid
  next preset options _ => exact ⟨_, _, mapError_eq_ok_iff.mp valid⟩

section Dependable

variable {grammar : Grammar} (dependable : Dependable grammar)
include dependable

theorem lintPaths_unnameable {store : FileStore} {paths : List FilePath}
    (unnameable : ∃ path ∈ (yielded store paths).1, ¬ Nameable path) (engine : Engine)
    (fix : Bool) :
    lintPaths grammar engine fix (.ofStore store) paths = .stopped (.file .nullInPath) := by
  rw [lintPaths_eq]
  exact congrArg (ended · _) (foldlM_unnameable dependable unnameable _)

theorem lintPaths_nameable {store : FileStore} {paths : List FilePath}
    (nameable : ∀ path ∈ (yielded store paths).1, Nameable path) (engine : Engine) (fix : Bool) :
    ∃ batch, (yielded store paths).1.foldlM (Batch.add grammar engine fix) (.ofStore store) =
        .ok batch ∧
      lintPaths grammar engine fix (.ofStore store) paths =
        ended (.ok batch) (yielded store paths).2 := by
  obtain ⟨batch, taken⟩ := foldlM_nameable dependable nameable (.ofStore store)
  refine ⟨batch, taken, ?_⟩
  rw [lintPaths_eq]
  exact congrArg (ended · _) taken

theorem run_unnameable {request : Request} {environment : Option String} {store : FileStore}
    {engine : Engine} (valid : request.engine environment = .ok engine)
    (unnameable : ∃ path ∈ (yielded store (request.paths.map .ofText)).1, ¬ Nameable path) :
    request.run grammar environment store = .error (.lint (.file .nullInPath)) := by
  simp only [Request.run, valid, lintPaths_unnameable dependable unnameable]

theorem run_nameable {request : Request} {environment : Option String} {store : FileStore}
    {engine : Engine} (valid : request.engine environment = .ok engine)
    (searched : (yielded store (request.paths.map .ofText)).2 = none)
    (nameable : ∀ path ∈ (yielded store (request.paths.map .ofText)).1, Nameable path) :
    ∃ batch, lintPaths grammar engine request.fix (.ofStore store)
        (request.paths.map .ofText) = .finished batch ∧
      request.run grammar environment store = .ok batch.result ∧
      Accounted batch batch.result := by
  obtain ⟨batch, taken, finished⟩ := lintPaths_nameable dependable nameable engine request.fix
  obtain ⟨severities, options, configured⟩ := engine_configured valid
  rw [searched] at finished
  have described := foldlM_described taken fun linted none => by cases none
  refine ⟨batch, finished, ?_, result_accounted configured described⟩
  simp only [Request.run, valid, finished, ended]

end Dependable

/-- Every file that a search yields is linted or noted as unreadable, in the order of the search and
whatever becomes of the others, unless there is one whose path can name no file: it stops the batch.
Otherwise the status, the totals and the lines of a run agree with its batch. -/
theorem run_accounts_for_files (grammar : Grammar) (dependable : Dependable grammar) :
    (∀ (engine : Engine) (store : FileStore) (paths : List FilePath),
      ((∃ path ∈ (yielded store paths).1, ¬ Nameable path) →
        lintPaths grammar engine false (.ofStore store) paths = .stopped (.file .nullInPath)) ∧
      ((∀ path ∈ (yielded store paths).1, Nameable path) → ∃ batch,
        lintPaths grammar engine false (.ofStore store) paths =
          ended (.ok batch) (yielded store paths).2 ∧
        batch.store = store ∧
        Divided grammar engine store (yielded store paths).1 batch.results batch.unreadable)) ∧
      ∀ (request : Request) (environment : Option String) (store : FileStore) (engine : Engine),
        request.engine environment = .ok engine →
        (yielded store (request.paths.map .ofText)).2 = none →
          ((∃ path ∈ (yielded store (request.paths.map .ofText)).1, ¬ Nameable path) →
            request.run grammar environment store = .error (.lint (.file .nullInPath))) ∧
          ((∀ path ∈ (yielded store (request.paths.map .ofText)).1, Nameable path) → ∃ batch,
            lintPaths grammar engine request.fix (.ofStore store) (request.paths.map .ofText) =
              .finished batch ∧
            request.run grammar environment store = .ok batch.result ∧
            Accounted batch batch.result) := by
  constructor
  · intro engine store paths
    refine ⟨fun unnameable => lintPaths_unnameable dependable unnameable engine false, ?_⟩
    intro nameable
    obtain ⟨batch, taken, stands⟩ := lintPaths_nameable dependable nameable engine false
    obtain ⟨same, results, unreadable, linted, skipped, divided⟩ := foldlM_divided taken
    refine ⟨batch, stands, same, ?_⟩
    rw [linted, skipped]
    exact divided
  · intro request environment store engine valid searched
    exact ⟨run_unnameable dependable valid, run_nameable dependable valid searched⟩

theorem wholeText_dependable : Dependable FixPasses.wholeText := by
  intro text markup
  refine ⟨_, rfl, ?_⟩
  rw [reachable, reachableAll, List.forall_mem_singleton]
  exact ⟨String.Pos.Raw.isValid_zero, String.Pos.Raw.isValid_rawEndPos, Nat.zero_le _⟩

/-- A file that is no text, and one that is. -/
def halfReadable : FileStore :=
  ⟨⟨[(["b.ts"], .file [0xff]), (["c.ts"], .file [0x78])]⟩⟩

def strictly (paths : List String) : Request :=
  ⟨paths, some "strict", false, []⟩

theorem half_accounted :
    ∃ engine, (strictly ["b.ts", "c.ts"]).engine none = .ok engine ∧
      Dependable FixPasses.wholeText ∧
      yielded halfReadable [⟨0, ["b.ts"]⟩, ⟨0, ["c.ts"]⟩] =
        ([⟨0, ["b.ts"]⟩, ⟨0, ["c.ts"]⟩], none) ∧
      ∃ batch, (strictly ["b.ts", "c.ts"]).run FixPasses.wholeText none halfReadable =
          .ok batch.result ∧
        Accounted batch batch.result ∧ batch.result.status = 2 := by
  have found : yielded halfReadable [⟨0, ["b.ts"]⟩, ⟨0, ["c.ts"]⟩] =
      ([⟨0, ["b.ts"]⟩, ⟨0, ["c.ts"]⟩], none) := by decide +kernel
  have paths : (strictly ["b.ts", "c.ts"]).paths.map FilePath.ofText =
      [⟨0, ["b.ts"]⟩, ⟨0, ["c.ts"]⟩] := by decide +kernel
  have ended : ((strictly ["b.ts", "c.ts"]).run FixPasses.wholeText none halfReadable).map
      Result.status = .ok 2 := by decide +kernel
  obtain ⟨engine, valid⟩ : ∃ engine, (strictly ["b.ts", "c.ts"]).engine none = .ok engine :=
    ⟨_, rfl⟩
  have nameable : ∀ path ∈ ([⟨0, ["b.ts"]⟩, ⟨0, ["c.ts"]⟩] : List FilePath), Nameable path := by
    have plain : ∀ path ∈ ([⟨0, ["b.ts"]⟩, ⟨0, ["c.ts"]⟩] : List FilePath),
        '\x00' ∉ path.text.toList := by decide +kernel
    exact plain
  rw [← paths] at found nameable
  have accounts := (run_accounts_for_files FixPasses.wholeText wholeText_dependable).2 _ none
    halfReadable engine valid (congrArg Prod.snd found)
  rw [found] at accounts
  obtain ⟨batch, _, result, accounted⟩ := accounts.2 nameable
  rw [result] at ended
  refine ⟨engine, valid, wholeText_dependable, paths ▸ found, batch, result, accounted, ?_⟩
  exact Except.ok.inj ended

/-- The batch stops at a path with a zero byte in it, although the search yields it as a file, and
the file behind it is not linted. -/
theorem null_path_stops_batch :
    yielded halfReadable [⟨0, ["a\x00.ts"]⟩, ⟨0, ["c.ts"]⟩] =
        ([⟨0, ["a\x00.ts"]⟩, ⟨0, ["c.ts"]⟩], none) ∧
      lintPaths FixPasses.wholeText ⟨[]⟩ false (.ofStore halfReadable)
        [⟨0, ["a\x00.ts"]⟩, ⟨0, ["c.ts"]⟩] = .stopped (.file .nullInPath) := by
  refine ⟨by decide +kernel, ?_⟩
  rfl

end AngularLint.Proofs.ExitStatus
