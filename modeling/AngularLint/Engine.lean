import AngularLint.Listener

/-! The engine. Each rule sets itself up for the file; then the tree is toured once, and every visit
reaches the rules in the order in which they were registered. -/

namespace AngularLint

/-- A rule with its severity and its options settled. -/
structure ActiveRule where
  rule : Rule
  severity : Severity
  checker : Checker

def ActiveRule.reporter (active : ActiveRule) (file : SourceFile) : Reporter :=
  ⟨active.rule.id, active.rule.messages, active.severity, file.length⟩

structure Engine where
  rules : List ActiveRule

inductive EngineFault where
  | unknownRule (id : String)
  | invalidOptions (id : String) (problems : List OptionProblem)
deriving DecidableEq, Repr

def EngineFault.message : EngineFault → String
  | .unknownRule id => s!"Options given for unknown rule: {Text.quoted id}"
  | .invalidOptions id problems =>
    let listed := problems.map fun problem => s!"{problem.location}: {problem.code}"
    s!"Invalid options for rule {Text.quoted id}: " ++ "; ".intercalate listed

def Rule.settings (rule : Rule) (raw : JsonObject) : Except EngineFault rule.Settings :=
  (rule.schema.resolve raw).mapError (.invalidOptions rule.id)

def Rule.activate (rule : Rule) (severity : Severity) (raw : JsonObject) :
    Except EngineFault ActiveRule :=
  match rule.settings raw with
  | .error fault => .error fault
  | .ok settings => .ok ⟨rule, severity, rule.checker settings⟩

/-- A run over a file: the rules at work, and what they have brought so far. -/
structure Run where
  listeners : List Listener
  echo : Echo

namespace Run

def hear (run : Run) (moment : Moment) (cursor : Cursor) : Run :=
  let (listeners, echo) := Listener.hearAll moment cursor run.listeners
  ⟨listeners, run.echo.append echo⟩

def visit (run : Run) : Visit → Run
  | .enter cursor => (run.hear .enter cursor).hear .select cursor
  | .leave cursor => run.hear .leave cursor

end Run

namespace Engine

/-- Settles the rules: rules that are off are left out, and the options of the others are read.
Options for a rule that is not there are refused first. -/
def configure (rules : List Rule) (severities : OrderedMap String Severity)
    (options : OrderedMap String JsonObject) : Except EngineFault Engine :=
  match options.keys.find? fun id => !rules.any fun rule => rule.id == id with
  | some id => .error (.unknownRule id)
  | none =>
    let wanted := rules.filterMap fun rule =>
      let severity := (severities.get? rule.id).getD rule.severity
      if severity == .off then none else some (rule, severity)
    (wanted.mapM fun (rule, severity) =>
      Rule.activate rule severity ((options.get? rule.id).getD .empty)).map Engine.mk

def ruleIds (engine : Engine) : List String :=
  engine.rules.map fun active => active.rule.id

def start (engine : Engine) (context : Context) : Run :=
  let started := engine.rules.map fun active =>
    Listener.start (active.reporter context.file) active.checker context
  ⟨started.map Prod.fst, (started.map Prod.snd).foldl Echo.append .silence⟩

/-- Runs all rules over a file. A file that has not been parsed gives an empty report. -/
def run (engine : Engine) (file : SourceFile) : Report :=
  match file.root? with
  | none => ⟨file.filename, [], []⟩
  | some root =>
    let toured := root.tour.foldl Run.visit (engine.start ⟨file, root⟩)
    let finished := toured.hear .finish (.ofRoot root)
    ⟨file.filename, finished.echo.diagnostics, finished.echo.faults⟩

end Engine

end AngularLint
