import AngularLint.Angular.Decorators
import AngularLint.Rule.Data

/-! Rules given as data. A script lists actions for the start of a file and for events; an action
reports a finding, fails, or changes what the rule remembers of imports and classes. -/

namespace AngularLint

inductive Target where
  | node
  | program
  | range (start stop : Int)
deriving DecidableEq, Repr

inductive EditKind where
  | insertBefore
  | insertAfter
  | replace
  | remove
deriving DecidableEq, Repr

structure ScriptEdit where
  kind : EditKind
  target : Target
  text : String
deriving DecidableEq, Repr

inductive Datum where
  | plain (value : Json)
  | nodeText
  | nodeKind
  | attribute (path : String)
  | importCount
  | importsFrom (modulePath importedName : String)
  | classDepth
  | className
  | inside (mark : String)
  | filename

structure ScriptFinding where
  messageId : String
  target : Target
  data : List (String × Datum)
  edits : Option (List ScriptEdit)

inductive Action where
  | report (finding : ScriptFinding)
  | fail (kind message : String)
  | recordImport
  | push (className : Option String) (marks : List String)
  | pop

/-- An action, possibly only for nodes of one text. -/
structure ScriptStep where
  onlyAt : Option String
  action : Action

inductive ScriptKey where
  | named (text : String)
  | selector (text : String)
deriving DecidableEq, Repr

/-- A rule given as data. -/
structure Script where
  id : String
  severity : Severity
  messages : OrderedMap String String
  create : List ScriptStep
  tracksClasses : Bool
  handlers : List (ScriptKey × List ScriptStep)

/-- Where a step happens: in a file, at a node unless the file is only starting, and with what the
rule remembers. -/
structure Scene where
  file : SourceFile
  cursor? : Option Cursor
  memory : Memory Unit

def Scene.node (scene : Scene) (member : String) : Except Fault Node :=
  (Fault.demand member scene.cursor?).map Cursor.node

/-- The range of a target, of which `member` is wanted. -/
def Target.span (scene : Scene) (member : String) : Target → Except Fault Span
  | .node => (scene.node member).map Node.span
  | .program =>
    match scene.file.root? with
    | some root => .ok root.span
    | none => .error .noProgram
  | .range start stop => (Span.between start stop).mapError .invalidSpan

/-- Which end of its target an edit needs first. -/
def EditKind.neededEnd : EditKind → String
  | .insertAfter => "end"
  | _ => "start"

def ScriptEdit.resolve (scene : Scene) (edit : ScriptEdit) : Except Fault Edit :=
  (edit.target.span scene edit.kind.neededEnd).map fun span =>
    match edit.kind with
    | .insertBefore => .insertBefore span edit.text
    | .insertAfter => .insertAfter span edit.text
    | .replace => .replace span edit.text
    | .remove => .remove span

def Datum.text (scene : Scene) : Datum → Except Fault String
  | .plain value => .ok value.dataText
  | .nodeText => (scene.node "text").map (·.textIn scene.file.text)
  | .nodeKind => (scene.node "kind").map Node.kind
  | .attribute path => do
    let node ← scene.node "attribute"
    ((node.resolve path).map attributeText).mapError .path
  | .importCount => .ok (toString scene.memory.imports.size)
  | .importsFrom modulePath importedName =>
    .ok (flagText (scene.memory.imports.importsFrom modulePath importedName))
  | .classDepth => .ok (toString scene.memory.classes.length)
  | .className =>
    match scene.memory.classes with
    | [] => .ok "-"
    | frame :: _ => .ok (frame.className.getD "None")
  | .inside mark => .ok (flagText (scene.memory.classes.inside mark))
  | .filename => .ok scene.file.filename

def resolveData (scene : Scene) (data : List (String × Datum)) :
    Except Fault (OrderedMap String String) := do
  let entries ← data.mapM fun (key, datum) => (datum.text scene).map fun text => (key, text)
  return .ofList entries

/-- The finding that a script states. Its edits are settled first, then its data, then its place. -/
def ScriptFinding.resolve (scene : Scene) (finding : ScriptFinding) : Except Fault Finding := do
  let edits ← finding.edits.mapM fun edits => edits.mapM (·.resolve scene)
  let data ← resolveData scene finding.data
  let span ← finding.target.span scene "start"
  return ⟨span, finding.messageId, data, edits⟩

def Action.perform (scene : Scene) : Action → Except Fault (Memory Unit × List Act)
  | .report finding =>
    (finding.resolve scene).map fun finding => (scene.memory, [.report finding])
  | .fail kind message => .error (.other kind message)
  | .recordImport =>
    (scene.node "attribute").map fun node =>
      ({ scene.memory with imports := scene.memory.imports.record scene.file.text node }, [])
  | .push className marks =>
    let frame : ClassFrame := ⟨className, marks, none⟩
    .ok ({ scene.memory with classes := frame :: scene.memory.classes }, [])
  | .pop =>
    match scene.memory.classes with
    | [] => .error .noOpenClass
    | _ :: outer => .ok ({ scene.memory with classes := outer }, [])

def ScriptStep.applies (scene : Scene) (step : ScriptStep) : Bool :=
  step.onlyAt.all fun wanted =>
    scene.cursor?.any fun cursor => cursor.node.textIn scene.file.text == wanted

def ScriptStep.perform (scene : Scene) (step : ScriptStep) :
    Except Fault (Memory Unit × List Act) :=
  if step.applies scene then step.action.perform scene else .ok (scene.memory, [])

def performSteps (file : SourceFile) (cursor? : Option Cursor) :
    List ScriptStep → Memory Unit → Memory Unit × List Act
  | [], memory => (memory, [])
  | step :: rest, memory =>
    match step.perform ⟨file, cursor?, memory⟩ with
    | .error fault => (memory, [.fail fault])
    | .ok (memory, acts) =>
      let (memory, later) := performSteps file cursor? rest memory
      (memory, acts ++ later)

def ScriptKey.eventKey : ScriptKey → Except SelectorFault EventKey
  | .named text => .ok (.named text)
  | .selector text => (Selector.read text).map .selector

/-- Enters handlers into a table, up to the first key that names no event. A later handler takes the
place of an earlier one with the same key. -/
def enterHandlers (file : SourceFile) :
    List (ScriptKey × List ScriptStep) → HandlerTable (Memory Unit) →
      HandlerTable (Memory Unit) × List Act
  | [], table => (table, [])
  | (key, steps) :: rest, table =>
    match key.eventKey with
    | .error fault => (table, [.fail (.selector fault)])
    | .ok key =>
      enterHandlers file rest
        (table.insert key fun cursor memory => performSteps file (some cursor) steps memory)

namespace Script

def start (script : Script) (context : Context) : Setup (Memory Unit) :=
  let (memory, acts) := performSteps context.file none script.create (.fresh ())
  let tracked : HandlerTable (Memory Unit) :=
    if script.tracksClasses then .ofNamed (Angular.trackClasses fun _ _ _ => []) else .empty
  let (table, faults) := enterHandlers context.file script.handlers tracked
  ⟨acts ++ faults, memory, table⟩

def rule (script : Script) : Rule where
  id := script.id
  description := ""
  severity := script.severity
  fixable := true
  messages := script.messages
  Settings := Unit
  schema := noOptions
  checker := fun _ => ⟨Memory Unit, script.start⟩

end Script

end AngularLint
