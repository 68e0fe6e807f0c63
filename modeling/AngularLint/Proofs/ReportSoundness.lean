import AngularLint.Proofs.EditOrder
import AngularLint.Proofs.FindingOrigin
import AngularLint.Proofs.Outcomes

/-! What can be relied on in a report. A finding carries the name and the severity of the rule that
reported it, one of the rule's messages with its data filled in, and a fix only if that can be
carried out. A finding that does not meet this is no finding at all: reporting it fails, and what
has been reported before stays as it is. -/

namespace AngularLint.Proofs.ReportSoundness
open EditOrder EngineTrace FindingOrigin Outcomes

/-- A fix that can be carried out on a source of some length: there are edits, they are in order,
no two of them overlap, next to each other or not, and all lie within the source. -/
structure WellFormed (sourceLength : Nat) (fix : Fix) : Prop where
  edited : fix.edits ≠ []
  ordered : fix.edits.Pairwise fun first second =>
    first.span.start < second.span.start ∨
      (first.span.start = second.span.start ∧ first.span.stop ≤ second.span.stop)
  apart : fix.edits.Pairwise fun first second =>
    first.span.overlaps second.span = false ∧ second.span.overlaps first.span = false
  inside : ∀ edit ∈ fix.edits, edit.span.start ≤ edit.span.stop ∧ edit.span.stop ≤ sourceLength

/-- A finding as a reporter completes it. -/
structure Sound (reporter : Reporter) (diagnostic : Diagnostic) : Prop where
  rule : diagnostic.rule = reporter.rule
  severity : diagnostic.severity = reporter.severity
  message : ∃ template, reporter.messages.get? diagnostic.messageId = some template ∧
    diagnostic.message = fillTemplate template diagnostic.data
  fix : ∀ fix, diagnostic.fix = some fix → WellFormed reporter.sourceLength fix

/-- The finding has no edits, or edits that make a fix of a source of some length. -/
def Repairable (sourceLength : Nat) (finding : Finding) : Prop :=
  ∀ edits, finding.edits = some edits →
    edits ≠ [] ∧ (∀ edit ∈ edits, edit.span.stop ≤ sourceLength) ∧
      edits.Pairwise fun first second => first.span.overlaps second.span = false

theorem ofEdits_wellFormed {edits : List Edit} {sourceLength : Nat} {fix : Fix}
    (made : Fix.ofEdits edits sourceLength = .ok fix) : WellFormed sourceLength fix := by
  obtain ⟨edited, inside, apart, rfl⟩ := (ofEdits_eq_ok_iff edits sourceLength fix).mp made
  have same := sort_perm edits
  refine ⟨?_, ?_, ?_, ?_⟩
  · intro none
    exact edited (List.nil_perm.mp (none ▸ same))
  · exact (sort_ordered edits).imp fun {first second} early => (notAfter_iff first second).mp early
  · exact (apart.perm same.symm).imp fun {first second} clear =>
      ⟨clear, (overlaps_comm second.span first.span).trans clear⟩
  · intro edit member
    exact ⟨edit.span.ordered, Int.ofNat_le.mp (inside edit (same.mem_iff.mp member))⟩

theorem fixOf_repairable {reporter : Reporter} {finding : Finding}
    (repairable : Repairable reporter.sourceLength finding) :
    ∃ fix, reporter.fixOf finding = .ok fix := by
  rw [Reporter.fixOf]
  cases given : finding.edits with
  | none => exact ⟨none, rfl⟩
  | some edits =>
    obtain ⟨edited, inside, apart⟩ := repairable edits given
    have made : Fix.ofEdits edits reporter.sourceLength = .ok ⟨Edit.sort edits⟩ := by
      rw [ofEdits_eq_ok_iff]
      exact ⟨edited, fun edit member => Int.ofNat_le.mpr (inside edit member), apart, rfl⟩
    exact ⟨some ⟨Edit.sort edits⟩, by simp only [made]⟩

theorem fixOf_unrepairable {reporter : Reporter} {finding : Finding}
    (unrepairable : ¬ Repairable reporter.sourceLength finding) :
    ∃ fault, reporter.fixOf finding = .error (.fix fault) := by
  rw [Reporter.fixOf]
  cases given : finding.edits with
  | none =>
    have absent : Repairable reporter.sourceLength finding := fun edits some => by
      rw [given] at some
      cases some
    exact absurd absent unrepairable
  | some edits =>
    cases made : Fix.ofEdits edits reporter.sourceLength with
    | error fault => exact ⟨fault, by simp only [made]⟩
    | ok fix =>
      obtain ⟨edited, inside, apart, _⟩ := (ofEdits_eq_ok_iff edits _ fix).mp made
      refine absurd ?_ unrepairable
      intro others some
      rw [given, Option.some.injEq] at some
      subst others
      exact ⟨edited, fun edit member => Int.ofNat_le.mp (inside edit member), apart⟩

theorem fixOf_ok {reporter : Reporter} {finding : Finding} {fix : Option Fix}
    (made : reporter.fixOf finding = .ok fix) :
    fix = finding.edits.map (fun edits => ⟨Edit.sort edits⟩) ∧
      ∀ built, fix = some built → WellFormed reporter.sourceLength built := by
  rw [Reporter.fixOf] at made
  split at made
  next none =>
    cases made
    rw [none]
    exact ⟨rfl, fun built some => by cases some⟩
  next edits given =>
    split at made
    next built ok =>
      cases made
      obtain ⟨_, _, _, rfl⟩ := (ofEdits_eq_ok_iff edits _ _).mp ok
      rw [given]
      exact ⟨rfl, fun other same => Option.some.inj same ▸ ofEdits_wellFormed ok⟩
    next => cases made

/-- The finding shows in the report as it was stated, with its edits in order. -/
structure Carries (finding : Finding) (diagnostic : Diagnostic) : Prop where
  messageId : diagnostic.messageId = finding.messageId
  span : diagnostic.span = finding.span
  data : diagnostic.data = finding.data
  fix : diagnostic.fix = finding.edits.map fun edits => ⟨Edit.sort edits⟩

theorem complete_sound {reporter : Reporter} {finding : Finding} {diagnostic : Diagnostic}
    (completed : reporter.complete finding = .ok diagnostic) :
    Sound reporter diagnostic ∧ Carries finding diagnostic := by
  rw [Reporter.complete] at completed
  split at completed
  next => cases completed
  next template known =>
    split at completed
    next => cases completed
    next fix made =>
      cases completed
      obtain ⟨stated, wellFormed⟩ := fixOf_ok made
      exact ⟨⟨rfl, rfl, ⟨template, known, rfl⟩, wellFormed⟩, rfl, rfl, rfl, stated⟩

theorem complete_unknown {reporter : Reporter} {finding : Finding}
    (unknown : reporter.messages.get? finding.messageId = none) :
    reporter.complete finding = .error (.unknownMessage finding.messageId) := by
  simp only [Reporter.complete, unknown]

theorem complete_unrepairable {reporter : Reporter} {finding : Finding} {template : String}
    (known : reporter.messages.get? finding.messageId = some template)
    (unrepairable : ¬ Repairable reporter.sourceLength finding) :
    ∃ fault, reporter.complete finding = .error (.fix fault) := by
  obtain ⟨fault, failed⟩ := fixOf_unrepairable unrepairable
  exact ⟨fault, by simp only [Reporter.complete, known, failed]⟩

theorem complete_repairable {reporter : Reporter} {finding : Finding} {template : String}
    (known : reporter.messages.get? finding.messageId = some template)
    (repairable : Repairable reporter.sourceLength finding) :
    ∃ diagnostic, reporter.complete finding = .ok diagnostic := by
  obtain ⟨fix, made⟩ := fixOf_repairable repairable
  simp only [Reporter.complete, known, made]
  exact ⟨_, rfl⟩

/-- Acts are carried out one after another as long as none fails. -/
theorem perform_append {reporter : Reporter} {before : List Act}
    (passed : (reporter.perform before).2 = none) (acts : List Act) :
    reporter.perform (before ++ acts) =
      ((reporter.perform before).1 ++ (reporter.perform acts).1, (reporter.perform acts).2) := by
  induction before with
  | nil => rfl
  | cons act rest ih =>
    cases act with
    | fail fault => cases passed
    | report finding =>
      rw [List.cons_append]
      simp only [Reporter.perform] at passed ⊢
      cases completed : reporter.complete finding with
      | error fault =>
        rw [completed] at passed
        cases passed
      | ok diagnostic =>
        rw [completed] at passed
        simp only [ih passed, List.cons_append]

/-- Reporting a finding after other acts adds one sound finding, or it fails and adds none. It fails
if the message is not one of the rule's, and else if the edits make no fix. -/
structure Atomic (reporter : Reporter) (before : List Act) (finding : Finding) : Prop where
  added : ∀ template, reporter.messages.get? finding.messageId = some template →
    Repairable reporter.sourceLength finding →
      ∃ diagnostic, Sound reporter diagnostic ∧ Carries finding diagnostic ∧
        reporter.perform (before ++ [.report finding]) =
          ((reporter.perform before).1 ++ [diagnostic], none)
  unknown : reporter.messages.get? finding.messageId = none →
    (Fault.unknownMessage finding.messageId).kind = "KeyError" ∧
      reporter.perform (before ++ [.report finding]) =
        ((reporter.perform before).1, some (.unknownMessage finding.messageId))
  unrepairable : ∀ template, reporter.messages.get? finding.messageId = some template →
    ¬ Repairable reporter.sourceLength finding →
      ∃ fault, (Fault.fix fault).kind = "FixError" ∧
        reporter.perform (before ++ [.report finding]) =
          ((reporter.perform before).1, some (.fix fault))

theorem report_atomic {reporter : Reporter} {before : List Act}
    (passed : (reporter.perform before).2 = none) (finding : Finding) :
    Atomic reporter before finding where
  added template known repairable := by
    obtain ⟨diagnostic, completed⟩ := complete_repairable known repairable
    obtain ⟨sound, carries⟩ := complete_sound completed
    refine ⟨diagnostic, sound, carries, ?_⟩
    simp only [perform_append passed, Reporter.perform, completed]
  unknown absent := by
    refine ⟨rfl, ?_⟩
    simp only [perform_append passed, Reporter.perform, complete_unknown absent, List.append_nil]
  unrepairable template known invalid := by
    obtain ⟨fault, failed⟩ := complete_unrepairable known invalid
    refine ⟨fault, rfl, ?_⟩
    simp only [perform_append passed, Reporter.perform, failed, List.append_nil]

/-- An active rule is one of the given rules, with the severity that is configured for its id, or
its own if there is none, and with settled options. -/
structure Settled (rules : List Rule) (severities : OrderedMap String Severity)
    (active : ActiveRule) : Prop where
  listed : active.rule ∈ rules
  severity : active.severity = (severities.get? active.rule.id).getD active.rule.severity
  on : active.severity ≠ .off
  checker : ∃ settings, active.checker = active.rule.checker settings

theorem activate_ok {rule : Rule} {severity : Severity} {raw : JsonObject} {active : ActiveRule}
    (activated : rule.activate severity raw = .ok active) :
    ∃ settings, active = ⟨rule, severity, rule.checker settings⟩ := by
  rw [Rule.activate] at activated
  split at activated
  next => cases activated
  next settings _ =>
    cases activated
    exact ⟨settings, rfl⟩

theorem configure_settled {rules : List Rule} {severities : OrderedMap String Severity}
    {options : OrderedMap String JsonObject} {engine : Engine}
    (configured : Engine.configure rules severities options = .ok engine) :
    ∀ active ∈ engine.rules, Settled rules severities active := by
  rw [Engine.configure] at configured
  split at configured
  next => cases configured
  next =>
    obtain ⟨settled, activated, rfl⟩ := map_eq_ok_iff.mp configured
    intro active member
    obtain ⟨⟨rule, severity⟩, wanted, made⟩ := mem_of_mapM_eq_ok activated member
    obtain ⟨candidate, listed, kept⟩ := List.mem_filterMap.mp wanted
    obtain ⟨settings, rfl⟩ := activate_ok made
    simp only [beq_iff_eq, Option.ite_none_left_eq_some, Option.some.injEq, Prod.mk.injEq] at kept
    obtain ⟨on, rfl, rfl⟩ := kept
    exact ⟨listed, rfl, on, settings, rfl⟩

/-- Every finding of every report of a configured engine belongs to an active rule, with the
severity settled for it, which is never off; its message is one of the rule's with the data filled
in, and its fix can be carried out on the file. Reporting is atomic for any rule at any time. -/
theorem report_is_sound (rules : List Rule) (severities : OrderedMap String Severity)
    (options : OrderedMap String JsonObject) (engine : Engine)
    (configured : Engine.configure rules severities options = .ok engine) :
    (∀ file, ∀ diagnostic ∈ (engine.run file).diagnostics, ∃ active ∈ engine.rules,
      active.rule ∈ rules ∧
        active.severity = (severities.get? active.rule.id).getD active.rule.severity ∧
        active.severity ≠ .off ∧
        Sound (active.reporter file) diagnostic) ∧
      ∀ (reporter : Reporter) (before : List Act) (finding : Finding),
        (reporter.perform before).2 = none → Atomic reporter before finding := by
  refine ⟨?_, fun reporter before finding passed => report_atomic passed finding⟩
  intro file diagnostic member
  obtain ⟨root, _, active, activated, finding, _, completed⟩ :=
    run_origin engine file diagnostic member
  have settled := configure_settled configured active activated
  exact ⟨active, activated, settled.listed, settled.severity, settled.on,
    (complete_sound completed).1⟩

/-- A rule that notes every program with its kind, and puts a line feed behind it. -/
def noting : Script :=
  ⟨"noting", .error, .ofList [("seen", "A \x7b\x7b kind \x7d\x7d.")], [], false,
    [(.named "program",
      [⟨none, .report
        ⟨"seen", .node, [("kind", .nodeKind)], some [⟨.insertAfter, .node, "\n"⟩]⟩⟩])]⟩

def noted : SourceFile :=
  ⟨"a.ts", "x", some ⟨"program", 0, ⟨0, 1, Nat.zero_le 1⟩, .empty, []⟩, false⟩

theorem noting_is_sound :
    let engine : Engine := ⟨[⟨noting.rule, .warn, noting.rule.checker ()⟩]⟩
    Engine.configure [noting.rule] (.ofList [("noting", .warn)]) .empty = .ok engine ∧
      (engine.run noted).diagnostics.map Diagnostic.message = ["A program."] ∧
      ∀ diagnostic ∈ (engine.run noted).diagnostics,
        Sound ⟨"noting", noting.messages, .warn, 1⟩ diagnostic := by
  intro engine
  have configured :
      Engine.configure [noting.rule] (.ofList [("noting", .warn)]) .empty = .ok engine := rfl
  refine ⟨configured, by decide +kernel, ?_⟩
  intro diagnostic member
  obtain ⟨active, activated, _, _, _, sound⟩ :=
    (report_is_sound _ _ _ engine configured).1 noted diagnostic member
  rw [List.mem_singleton.mp activated] at sound
  exact sound

end AngularLint.Proofs.ReportSoundness
