import AngularLint.Lint.File
import AngularLint.Proofs.FileWrite
import AngularLint.Proofs.NodeModel
import AngularLint.Proofs.PlainEdits
import AngularLint.Script

/-! Repairing a file. The text goes through passes, each of which carries out the accepted fixes of
the report on it; this ends with a pass that finds none, or after the last pass allowed. What is
returned and written is the text after the last pass, with the report on that very text. So unless
the passes were used up, a second repair has nothing to do. -/

namespace AngularLint.Proofs.FixPasses
open FileWrite FixAcceptance Outcomes PlainEdits

variable (grammar : Grammar) (engine : Engine) (filename : String)

/-- One pass over a text: the new text, and how many fixes went into it. -/
def pass (text : String) : Except ParseFault (String × Nat) :=
  (SourceFile.parse grammar filename text).map fun file =>
    Fix.applyAccepted (fixesOf (engine.run file).diagnostics) text

/-- Some passes one after the other: the last text, and how many fixes each pass brought. -/
def passes : Nat → String → Except ParseFault (String × List Nat)
  | 0, text => .ok (text, [])
  | more + 1, text =>
    pass grammar engine filename text >>= fun (patched, count) =>
      (passes more patched).map fun (last, counts) => (last, count :: counts)

variable {grammar engine filename}

theorem passes_cons {text patched last : String} {count : Nat} {counts : List Nat}
    (first : pass grammar engine filename text = .ok (patched, count))
    (later : passes grammar engine filename counts.length patched = .ok (last, counts)) :
    passes grammar engine filename (count :: counts).length text = .ok (last, count :: counts) := by
  rw [List.length_cons, passes, bind_eq_ok_iff]
  exact ⟨_, first, map_eq_ok_iff.mpr ⟨_, later, rfl⟩⟩

/-- The file has been parsed from its text, and the report is the one on it. -/
structure Described (grammar : Grammar) (engine : Engine) (filename : String)
    (linted : LintedFile) : Prop where
  parsed : SourceFile.parse grammar filename linted.file.text = .ok linted.file
  report : linted.report = engine.run linted.file

theorem parse_fields {text : String} {file : SourceFile}
    (parsed : SourceFile.parse grammar filename text = .ok file) :
    file.text = text ∧ file.filename = filename := by
  obtain ⟨_, _, _, _, rfl⟩ := NodeModel.parse_ok parsed
  exact ⟨rfl, rfl⟩

theorem lintText_ok {text : String} {linted : LintedFile}
    (ok : lintText grammar engine filename text = .ok linted) :
    linted.file.text = text ∧ linted.file.filename = filename ∧ linted.fixed = 0 ∧
      Described grammar engine filename linted := by
  obtain ⟨file, parsed, rfl⟩ := map_eq_ok_iff.mp ok
  obtain ⟨same, named⟩ := parse_fields parsed
  exact ⟨same, named, rfl, same.symm ▸ parsed, rfl⟩

theorem Described.pass {linted : LintedFile}
    (described : Described grammar engine filename linted) :
    pass grammar engine filename linted.file.text =
      .ok (Fix.applyAccepted (fixesOf linted.report.diagnostics) linted.file.text) := by
  rw [FixPasses.pass, described.parsed, described.report]
  rfl

theorem applied_eq_zero_iff {diagnostics : List Diagnostic} {text : String} :
    (Fix.applyAccepted (fixesOf diagnostics) text).2 = 0 ↔
      ∀ diagnostic ∈ diagnostics, diagnostic.fix = none := by
  rw [← (accept_inTurn diagnostics).none]
  exact List.length_eq_zero_iff

/-- All fixes of some passes. -/
def total (counts : List Nat) : Nat :=
  counts.foldr (· + ·) 0

theorem total_eq_zero_iff {counts : List Nat} (applied : ∀ count ∈ counts, 0 < count) :
    total counts = 0 ↔ counts = [] := by
  cases counts with
  | nil => exact iff_of_true rfl rfl
  | cons count rest =>
    have some := applied count List.mem_cons_self
    refine iff_of_false ?_ (List.cons_ne_nil _ _)
    rw [total, List.foldr_cons]
    omega

/-- Passes that each apply a fix lead from one state of a file to another. -/
structure Leads (grammar : Grammar) (engine : Engine) (filename : String) (start last : LintedFile)
    (counts : List Nat) : Prop where
  passes : passes grammar engine filename counts.length start.file.text =
    .ok (last.file.text, counts)
  applied : ∀ count ∈ counts, 0 < count
  fixed : last.fixed = start.fixed + total counts
  described : Described grammar engine filename last

/-- Passes that each apply a fix lead to a text that does not parse. -/
structure BreaksOff (grammar : Grammar) (engine : Engine) (filename text : String)
    (fault : ParseFault) (counts : List Nat) : Prop where
  applied : ∀ count ∈ counts, 0 < count
  unparsed : ∃ last, passes grammar engine filename counts.length text = .ok (last, counts) ∧
    SourceFile.parse grammar filename last = .error fault

theorem Leads.nil {linted : LintedFile} (described : Described grammar engine filename linted) :
    Leads grammar engine filename linted linted [] where
  passes := rfl
  applied count none := by cases none
  fixed := rfl
  described := described

theorem Leads.cons {start next last : LintedFile} {count : Nat} {counts : List Nat}
    (later : Leads grammar engine filename next last counts)
    (first : pass grammar engine filename start.file.text = .ok (next.file.text, count))
    (some : 0 < count) (fixed : next.fixed = start.fixed + count) :
    Leads grammar engine filename start last (count :: counts) where
  passes := passes_cons first later.passes
  applied := List.forall_mem_cons.mpr ⟨some, later.applied⟩
  fixed := by rw [later.fixed, fixed, total, total, List.foldr_cons, Nat.add_assoc]
  described := later.described

theorem BreaksOff.cons {text patched : String} {count : Nat} {counts : List Nat}
    {fault : ParseFault} (later : BreaksOff grammar engine filename patched fault counts)
    (first : pass grammar engine filename text = .ok (patched, count)) (some : 0 < count) :
    BreaksOff grammar engine filename text fault (count :: counts) := by
  obtain ⟨last, led, unparsed⟩ := later.unparsed
  exact ⟨List.forall_mem_cons.mpr ⟨some, later.applied⟩, last, passes_cons first led, unparsed⟩

theorem fixPasses_of_none {linted : LintedFile}
    (none : ∀ diagnostic ∈ linted.report.diagnostics, diagnostic.fix = none) (left : Nat)
    (log : List LogRecord) : fixPasses grammar engine left linted log = .ok (linted, log) := by
  cases left with
  | zero => rfl
  | succ left =>
    have idle : (Fix.applyAccepted (fixesOf linted.report.diagnostics) linted.file.text).2 = 0 :=
      applied_eq_zero_iff.mpr none
    simp only [fixPasses, idle, beq_self_eq_true, if_true]

/-- The loop of passes ends with the state that the passes lead to, or breaks off with them; that it
ends early means that no fix is left. -/
theorem fixPasses_leads (left : Nat) {linted : LintedFile}
    (described : Described grammar engine filename linted)
    (named : linted.file.filename = filename) (log : List LogRecord) :
    (∃ last lastLog counts, fixPasses grammar engine left linted log = .ok (last, lastLog) ∧
      Leads grammar engine filename linted last counts ∧ counts.length ≤ left ∧
        (counts.length < left → ∀ diagnostic ∈ last.report.diagnostics, diagnostic.fix = none)) ∨
      ∃ fault counts, fixPasses grammar engine left linted log = .error fault ∧
        BreaksOff grammar engine filename linted.file.text fault counts ∧ counts.length ≤ left := by
  induction left generalizing linted log with
  | zero =>
    left
    exact ⟨linted, log, [], rfl, .nil described, Nat.le_refl 0, fun early => by cases early⟩
  | succ left ih =>
    rcases taken : Fix.applyAccepted (fixesOf linted.report.diagnostics) linted.file.text with
      ⟨patched, count⟩
    have first := described.pass.trans (congrArg Except.ok taken)
    rcases Nat.eq_zero_or_pos count with rfl | some
    · have none := applied_eq_zero_iff.mp (congrArg Prod.snd taken)
      left
      exact ⟨linted, log, [], fixPasses_of_none none _ log, .nil described, Nat.zero_le _,
        fun _ => none⟩
    · have goesOn : (count == 0) = false := beq_eq_false_iff_ne.mpr (Nat.ne_of_gt some)
      simp only [fixPasses, taken, goesOn, Bool.false_eq_true, if_false, named]
      cases relinted : lintText grammar engine filename patched with
      | error fault =>
        have broken : BreaksOff grammar engine filename patched fault [] :=
          ⟨by simp, patched, rfl, map_eq_error_iff.mp relinted⟩
        right
        exact ⟨fault, [count], rfl, broken.cons first some, Nat.succ_le_succ (Nat.zero_le left)⟩
      | ok next =>
        obtain ⟨rfl, nextNamed, _, nextDescribed⟩ := lintText_ok relinted
        let resumed : LintedFile := { next with fixed := linted.fixed + count }
        have resumedDescribed : Described grammar engine filename resumed :=
          ⟨nextDescribed.parsed, nextDescribed.report⟩
        rcases ih resumedDescribed nextNamed (log ++ next.log) with
          ⟨last, lastLog, counts, ended, leads, few, early⟩ | ⟨fault, counts, failed, broken, few⟩
        · left
          exact ⟨last, lastLog, count :: counts, ended, leads.cons first some rfl,
            Nat.succ_le_succ few, fun short => early (Nat.lt_of_succ_lt_succ short)⟩
        · right
          exact ⟨fault, count :: counts, failed, broken.cons first some, Nat.succ_le_succ few⟩

theorem noReturn_passes (plain : ∀ file : SourceFile,
      ∀ fix ∈ fixesOf (engine.run file).diagnostics, ∀ edit ∈ fix.edits, Plain edit)
    {count : Nat} {text last : String} {counts : List Nat}
    (led : passes grammar engine filename count text = .ok (last, counts))
    (before : '\r' ∉ text.toList) : '\r' ∉ last.toList := by
  induction count generalizing text counts with
  | zero =>
    cases led
    exact before
  | succ more ih =>
    obtain ⟨⟨patched, first⟩, passed, led⟩ := bind_eq_ok_iff.mp led
    obtain ⟨⟨final, others⟩, later, same⟩ := map_eq_ok_iff.mp led
    cases same
    obtain ⟨file, _, applied⟩ := map_eq_ok_iff.mp passed
    refine ih later ?_
    have kept := applyAccepted_plain (plain file) before
    rwa [applied] at kept

/-- What the repair of a file with some text comes to. -/
structure Repaired (grammar : Grammar) (engine : Engine) (store : FileStore) (path : FilePath)
    (text : String) (outcome : FileOutcome) (counts : List Nat) : Prop where
  few : counts.length ≤ maxFixPasses
  passes : passes grammar engine path.text counts.length text =
    .ok (outcome.linted.file.text, counts)
  applied : ∀ count ∈ counts, 0 < count
  fixed : outcome.linted.fixed = total counts
  described : Described grammar engine path.text outcome.linted
  untouched : outcome.linted.fixed = 0 → outcome.store = store
  written : 0 < outcome.linted.fixed →
    Written store outcome.store path outcome.linted.file.text
  settled : counts.length < maxFixPasses →
    ∀ diagnostic ∈ outcome.linted.report.diagnostics, diagnostic.fix = none
  again : counts.length < maxFixPasses → '\r' ∉ outcome.linted.file.text.toList →
    ∃ log, lintFile grammar engine true outcome.store path =
      .ok ⟨{ outcome.linted with fixed := 0 }, outcome.store, log⟩
  plain : ∀ rules severities options, rules ⊆ registry →
    Engine.configure rules severities options = .ok engine →
      '\r' ∉ outcome.linted.file.text.toList

theorem ofLinted_linted (store : FileStore) (path : FilePath) (linted : LintedFile)
    (log : List LogRecord) : (FileOutcome.ofLinted store path linted log).linted = linted := by
  rw [FileOutcome.ofLinted]
  split <;> rfl

theorem ofLinted_store (store : FileStore) (path : FilePath) (linted : LintedFile)
    (log : List LogRecord) :
    (FileOutcome.ofLinted store path linted log).store =
      if linted.fixed = 0 then store else store.writeText path linted.file.text := by
  simp only [FileOutcome.ofLinted, beq_iff_eq]
  split <;> rfl

theorem Described.lintText {linted : LintedFile}
    (described : Described grammar engine filename linted) :
    lintText grammar engine filename linted.file.text = .ok { linted with fixed := 0 } := by
  rw [AngularLint.lintText, described.parsed, described.report]
  rfl

/-- A file that holds a text without open fixes is left as it is. -/
theorem lintFile_settled {store : FileStore} {path : FilePath} {linted : LintedFile}
    (described : Described grammar engine path.text linted)
    (readable : store.readText path = .ok linted.file.text)
    (settled : ∀ diagnostic ∈ linted.report.diagnostics, diagnostic.fix = none) :
    ∃ log, lintFile grammar engine true store path =
      .ok ⟨{ linted with fixed := 0 }, store, log⟩ := by
  let idle : LintedFile := { linted with fixed := 0 }
  have idleSettled : ∀ diagnostic ∈ idle.report.diagnostics, diagnostic.fix = none := settled
  refine ⟨idle.log, ?_⟩
  simp only [lintFile, readable, described.lintText, if_true]
  rw [fixPasses_of_none idleSettled]
  rfl

variable {store : FileStore} {path : FilePath} {start : LintedFile} {outcome : FileOutcome}
  {counts : List Nat}

/-- The text after the repair is what is read from the store afterwards, written or not. -/
theorem Leads.readText (leads : Leads grammar engine filename start outcome.linted counts)
    (readable : store.readText path = .ok start.file.text) (fresh : start.fixed = 0)
    (kept : outcome.store = if outcome.linted.fixed = 0 then store
      else store.writeText path outcome.linted.file.text)
    (plain : '\r' ∉ outcome.linted.file.text.toList) :
    outcome.store.readText path = .ok outcome.linted.file.text := by
  rw [kept]
  split
  next unfixed =>
    have none : total counts = 0 := by
      rw [leads.fixed, fresh, Nat.zero_add] at unfixed
      exact unfixed
    cases (total_eq_zero_iff leads.applied).mp none
    have same : start.file.text = outcome.linted.file.text :=
      congrArg Prod.fst (Except.ok.inj leads.passes)
    rw [readable, same]
  next => exact readText_written (writeText_written readable _) plain

theorem Leads.repaired (leads : Leads grammar engine path.text start outcome.linted counts)
    (readable : store.readText path = .ok start.file.text) (fresh : start.fixed = 0)
    (kept : outcome.store = if outcome.linted.fixed = 0 then store
      else store.writeText path outcome.linted.file.text)
    (few : counts.length ≤ maxFixPasses)
    (settled : counts.length < maxFixPasses →
      ∀ diagnostic ∈ outcome.linted.report.diagnostics, diagnostic.fix = none) :
    Repaired grammar engine store path start.file.text outcome counts where
  few := few
  passes := leads.passes
  applied := leads.applied
  fixed := by rw [leads.fixed, fresh, Nat.zero_add]
  described := leads.described
  untouched unfixed := by rw [kept, if_pos unfixed]
  written some := by
    rw [kept, if_neg (Nat.ne_of_gt some)]
    exact writeText_written readable _
  settled := settled
  again early plain :=
    lintFile_settled leads.described (leads.readText readable fresh kept plain) (settled early)
  plain rules severities options builtin configured :=
    noReturn_passes (run_plain builtin configured) leads.passes (noReturn_of_read readable)

/-- A file that can be read is repaired pass by pass, and what is reported, returned and written is
the text after the last pass; or some text on the way does not parse. -/
theorem repair_iterates_passes (grammar : Grammar) (engine : Engine) (store : FileStore)
    (path : FilePath) (text : String) (readable : store.readText path = .ok text) :
    (∃ outcome counts, lintFile grammar engine true store path = .ok outcome ∧
      Repaired grammar engine store path text outcome counts) ∨
      ∃ fault counts, lintFile grammar engine true store path = .error (.parse fault) ∧
        BreaksOff grammar engine path.text text fault counts ∧ counts.length ≤ maxFixPasses := by
  cases linting : lintText grammar engine path.text text with
  | error fault =>
    right
    refine ⟨fault, [], ?_, ⟨by simp, text, rfl, map_eq_error_iff.mp linting⟩, Nat.zero_le _⟩
    simp only [lintFile, readable, linting]
  | ok linted =>
    obtain ⟨rfl, named, fresh, described⟩ := lintText_ok linting
    rcases fixPasses_leads maxFixPasses described named linted.log with
      ⟨last, log, counts, ended, leads, few, early⟩ | ⟨fault, counts, failed, broken, few⟩
    · have same := ofLinted_linted store path last log
      left
      refine ⟨.ofLinted store path last log, counts, ?_, ?_⟩
      · simp only [lintFile, readable, linting, if_true, ended]
      · refine Leads.repaired (same.symm ▸ leads) readable fresh ?_ few (same.symm ▸ early)
        rw [same, ofLinted_store]
    · right
      refine ⟨fault, counts, ?_, broken, few⟩
      simp only [lintFile, readable, linting, if_true, failed]

/-- Takes every text for one program. -/
def wholeText : Grammar where
  parse? text _ := some ⟨⟨"program", true, none, 0, text.utf8ByteSize, []⟩, false⟩

def rename (old new : String) : ScriptStep :=
  ⟨some old, .report ⟨"renamed", .node, [], some [⟨.replace, .node, new⟩]⟩⟩

/-- Renames `x` to `y`, twice over so that one of the two fixes has to wait, and `y` to `z`. -/
def renamer : Engine :=
  let script : Script :=
    ⟨"renamer", .error, .ofList [("renamed", "Renamed.")], [], false,
      [(.named "program", [rename "x" "y", rename "x" "y", rename "y" "z"])]⟩
  ⟨[⟨script.rule, .error, script.rule.checker ()⟩]⟩

def storeWithX : FileStore :=
  ⟨⟨[(["a.ts"], .file [0x78])]⟩⟩

theorem renamer_iterates_passes :
    storeWithX.readText ⟨0, ["a.ts"]⟩ = .ok "x" ∧
      ∃ outcome counts, lintFile wholeText renamer true storeWithX ⟨0, ["a.ts"]⟩ = .ok outcome ∧
        Repaired wholeText renamer storeWithX ⟨0, ["a.ts"]⟩ "x" outcome counts ∧
        outcome.linted.file.text = "z" ∧ total counts = 2 := by
  have readable : storeWithX.readText ⟨0, ["a.ts"]⟩ = .ok "x" := by decide +kernel
  have result : (lintFile wholeText renamer true storeWithX ⟨0, ["a.ts"]⟩).map
      (fun outcome => (outcome.linted.file.text, outcome.linted.fixed)) = .ok ("z", 2) := by
    decide +kernel
  refine ⟨readable, ?_⟩
  rcases repair_iterates_passes wholeText renamer storeWithX _ "x" readable with
    ⟨outcome, counts, ended, repaired⟩ | ⟨fault, counts, failed, _⟩
  · rw [ended] at result
    obtain ⟨same, fixed⟩ := Prod.mk.inj (Except.ok.inj result)
    exact ⟨outcome, counts, ended, repaired, same, repaired.fixed.symm.trans fixed⟩
  · rw [failed] at result
    cases result

end AngularLint.Proofs.FixPasses
