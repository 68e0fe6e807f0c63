import AngularLint.Rule

/-! From the acts of a rule to the findings in a report. -/

namespace AngularLint

structure Reporter where
  rule : String
  messages : OrderedMap String String
  severity : Severity
  sourceLength : Nat

namespace Reporter

def fixOf (reporter : Reporter) (finding : Finding) : Except Fault (Option Fix) :=
  match finding.edits with
  | none => .ok none
  | some edits =>
    match Fix.ofEdits edits reporter.sourceLength with
    | .ok fix => .ok (some fix)
    | .error fault => .error (.fix fault)

/-- Completes a finding. The message has to be one of the rule's, and the edits a valid fix. -/
def complete (reporter : Reporter) (finding : Finding) : Except Fault Diagnostic :=
  match reporter.messages.get? finding.messageId with
  | none => .error (.unknownMessage finding.messageId)
  | some template =>
    match reporter.fixOf finding with
    | .error fault => .error fault
    | .ok fix =>
      .ok
        { rule := reporter.rule
          messageId := finding.messageId
          message := fillTemplate template finding.data
          span := finding.span
          severity := reporter.severity
          data := finding.data
          fix }

/-- Carries out acts up to the first that fails: the findings, and the failure. -/
def perform (reporter : Reporter) : List Act → List Diagnostic × Option Fault
  | [] => ([], none)
  | .fail fault :: _ => ([], some fault)
  | .report finding :: rest =>
    match reporter.complete finding with
    | .error fault => ([], some fault)
    | .ok diagnostic =>
      let (diagnostics, fault) := reporter.perform rest
      (diagnostic :: diagnostics, fault)

end Reporter

end AngularLint
