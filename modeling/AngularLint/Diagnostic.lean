import AngularLint.Edit
import AngularLint.Log
import AngularLint.Message
import AngularLint.SourceFile

/-! What a run over a file brings to light: findings of rules, and rules that failed. -/

namespace AngularLint

inductive Severity where
  | off
  | warn
  | error
deriving DecidableEq, Repr

def Severity.name : Severity → String
  | .off => "OFF"
  | .warn => "WARN"
  | .error => "ERROR"

def Severity.ofName? (name : String) : Option Severity :=
  [Severity.off, .warn, .error].find? fun severity => severity.name == name

/-- The name of a severity in a printed finding. -/
def Severity.label : Severity → String
  | .off => "off"
  | .warn => "warn"
  | .error => "error"

structure Diagnostic where
  rule : String
  messageId : String
  message : String
  span : Span
  severity : Severity
  data : OrderedMap String String
  fix : Option Fix
deriving DecidableEq, Repr

/-- A rule that failed, with what it was doing and where. -/
structure RuleFault where
  rule : String
  event : String
  nodeKind : Option String
  span : Option Span
  error : String
deriving DecidableEq, Repr

structure Report where
  path : String
  diagnostics : List Diagnostic
  faults : List RuleFault
deriving DecidableEq, Repr

namespace Report

def forRule (report : Report) (rule : String) : List Diagnostic :=
  report.diagnostics.filter fun diagnostic => diagnostic.rule == rule

def messageIds (report : Report) : List String :=
  report.diagnostics.map Diagnostic.messageId

def faultLog (report : Report) : List LogRecord :=
  report.faults.map fun fault =>
    ⟨.warning, "ngstandards.rules.engine",
      s!"Rule {fault.rule} failed on {fault.event} in {report.path}; disabled for this file"⟩

end Report

def anyError (diagnostics : List Diagnostic) : Bool :=
  diagnostics.any fun diagnostic => diagnostic.severity == .error

def fixesOf (diagnostics : List Diagnostic) : List Fix :=
  diagnostics.filterMap Diagnostic.fix

def Diagnostic.line (diagnostic : Diagnostic) (file : SourceFile) : String :=
  let (line, column) := file.lineCol diagnostic.span.start
  s!"{file.filename}:{line}:{column} {diagnostic.severity.label} " ++
    s!"{diagnostic.message} [{diagnostic.rule}]"

end AngularLint
