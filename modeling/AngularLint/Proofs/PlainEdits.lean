import AngularLint.Proofs.FixAcceptance
import AngularLint.Proofs.ReportSoundness
import AngularLint.Proofs.RuleAnswers

/-! No rule of the registry puts a carriage return into a file. Two of the rules repair what they
find, with fixed texts and with the spaces and tabs at the start of a line; the others only take
note. So a text without carriage returns has none after its repair either. -/

namespace AngularLint.Proofs.PlainEdits
open FindingOrigin FixAcceptance ReportSoundness RuleAnswers

def Plain (edit : Edit) : Prop :=
  '\r' ∉ edit.text.toList

theorem answer_plain {messages : OrderedMap String String} {length : Nat} {node : Node}
    {finding : Finding} (answer : Answer messages length node (.report finding)) :
    ∀ edits, finding.edits = some edits → ∀ edit ∈ edits, Plain edit := by
  intro edits given edit member
  cases answer with
  | note _ unedited =>
    rw [unedited] at given
    cases given
  | repair _ edited _ plain =>
    rw [edited] at given
    cases given
    rw [List.mem_singleton.mp member]
    exact plain

/-- Every fix in a report of an engine with rules of the registry consists of plain edits. -/
theorem run_plain {rules : List Rule} {severities : OrderedMap String Severity}
    {options : OrderedMap String JsonObject} {engine : Engine} (builtin : rules ⊆ registry)
    (configured : Engine.configure rules severities options = .ok engine) (file : SourceFile) :
    ∀ fix ∈ fixesOf (engine.run file).diagnostics, ∀ edit ∈ fix.edits, Plain edit := by
  intro fix member edit inside
  obtain ⟨diagnostic, reported, carried⟩ := List.mem_filterMap.mp member
  obtain ⟨root, _, active, activated, finding, stated, completed⟩ :=
    run_origin engine file diagnostic reported
  have settled := configure_settled configured active activated
  obtain ⟨settings, checker⟩ := settled.checker
  rw [checker] at stated
  obtain ⟨cursor, answer⟩ :=
    (registry_answers _ (builtin settled.listed) settings ⟨file, root⟩).states stated
  rw [(complete_sound completed).2.fix] at carried
  obtain ⟨edits, given, rfl⟩ := Option.map_eq_some_iff.mp carried
  exact answer_plain answer edits given edit ((EditOrder.sort_perm edits).mem_iff.mp inside)

theorem apply_plain {edit : Edit} {source : String} (plain : Plain edit)
    (before : '\r' ∉ source.toList) : '\r' ∉ (edit.apply source).toList := by
  rw [Edit.apply, Text.splice, String.toList_ofList]
  simp only [List.mem_append, not_or]
  exact ⟨⟨fun early => before (List.mem_of_mem_take early), plain⟩,
    fun late => before (List.mem_of_mem_drop late)⟩

theorem applyAll_plain {edits : List Edit} {source : String} (plain : ∀ edit ∈ edits, Plain edit)
    (before : '\r' ∉ source.toList) : '\r' ∉ (Edit.applyAll edits source).toList := by
  induction edits with
  | nil => exact before
  | cons edit rest ih =>
    exact apply_plain (plain edit List.mem_cons_self)
      (ih fun other member => plain other (List.mem_cons_of_mem _ member))

/-- Carrying out fixes of plain edits brings no carriage return into a text. -/
theorem applyAccepted_plain {fixes : List Fix} {source : String}
    (plain : ∀ fix ∈ fixes, ∀ edit ∈ fix.edits, Plain edit) (before : '\r' ∉ source.toList) :
    '\r' ∉ (Fix.applyAccepted fixes source).1.toList := by
  refine applyAll_plain ?_ before
  intro edit member
  obtain ⟨fix, accepted, inside⟩ :=
    List.mem_flatMap.mp ((EditOrder.sort_perm _).mem_iff.mp member)
  exact plain fix ((acceptFrom_sublist [] fixes).subset accepted) edit inside

end AngularLint.Proofs.PlainEdits
