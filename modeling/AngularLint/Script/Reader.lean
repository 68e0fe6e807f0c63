import AngularLint.Script

/-! Scripts written as JSON. -/

namespace AngularLint

def Json.textAt? (json : Json) (key : String) : Option String :=
  (json.member? key).bind Json.string?

/-- The list under a key; a key that is not there stands for an empty list. -/
def Json.listAt? (json : Json) (key : String) : Option (List Json) :=
  match json.member? key with
  | none => some []
  | some value => value.list?

def Json.textMap? (json : Json) : Option (OrderedMap String String) := do
  let members ← json.object?
  let entries ← members.entries.mapM fun (key, value) => value.string?.map fun text => (key, text)
  return .ofList entries

/-- Reads a target: a word or two offsets. Without one the node of the event is meant. -/
def Target.ofJson? : Option Json → Option Target
  | none => some .node
  | some (.string "node") => some .node
  | some (.string "program") => some .program
  | some (.list [.int start, .int stop]) => some (.range start stop)
  | _ => none

def EditKind.ofName? : String → Option EditKind
  | "insert_before" => some .insertBefore
  | "insert_after" => some .insertAfter
  | "replace" => some .replace
  | "remove" => some .remove
  | _ => none

def ScriptEdit.ofJson? (json : Json) : Option ScriptEdit := do
  let kind ← (json.textAt? "edit").bind EditKind.ofName?
  let target ← Target.ofJson? (json.member? "target")
  return ⟨kind, target, (json.textAt? "text").getD ""⟩

def ScriptEdit.severalOfJson? : Option Json → Option (Option (List ScriptEdit))
  | none => some none
  | some .null => some none
  | some (.list items) => (items.mapM ScriptEdit.ofJson?).map some
  | some json => (ScriptEdit.ofJson? json).map fun edit => some [edit]

/-- Reads a value. What is looked up is an object with the key `$`. -/
def Datum.ofJson? (json : Json) : Option Datum :=
  match json.textAt? "$" with
  | none => some (.plain json)
  | some "text" => some .nodeText
  | some "kind" => some .nodeKind
  | some "attr" => (json.textAt? "path").map .attribute
  | some "imports" => some .importCount
  | some "imports_from" => do return .importsFrom (← json.textAt? "module") (← json.textAt? "name")
  | some "depth" => some .classDepth
  | some "class" => some .className
  | some "inside" => (json.textAt? "classifier").map .inside
  | some "filename" => some .filename
  | _ => none

def Datum.severalOfJson? : Option Json → Option (List (String × Datum))
  | some (.object members) =>
    members.mapM fun (key, json) => (Datum.ofJson? json).map fun datum => (key, datum)
  | _ => some []

def ScriptFinding.ofJson? (json : Json) : Option ScriptFinding := do
  let messageId ← json.textAt? "message"
  let target ← Target.ofJson? (json.member? "target")
  let data ← Datum.severalOfJson? (json.member? "data")
  let edits ← ScriptEdit.severalOfJson? (json.member? "fix")
  return ⟨messageId, target, data, edits⟩

def classOfJson? (json : Json) : Option (Option String × List String) := do
  let marks ← (← json.listAt? "classifiers").mapM Json.string?
  return (json.textAt? "name", marks)

/-- The message of a failure; a missing key is quoted. -/
def failureMessage (kind text : String) : String :=
  if kind == "KeyError" then Text.quoted text else text

def Action.ofJson? (json : Json) : Option Action := do
  match ← json.textAt? "do" with
  | "report" => (ScriptFinding.ofJson? json).map .report
  | "raise" =>
    let kind ← json.textAt? "kind"
    return .fail kind (failureMessage kind (← json.textAt? "text"))
  | "record_import" => return .recordImport
  | "push" => (classOfJson? json).map fun (name, marks) => .push name marks
  | "pop" => return .pop
  | _ => none

def ScriptStep.ofJson? (json : Json) : Option ScriptStep :=
  (Action.ofJson? json).map fun action => ⟨json.textAt? "when_text", action⟩

def ScriptKey.ofJson? : Json → Option ScriptKey
  | .string text => some (.named text)
  | json => (json.textAt? "selector").map .selector

def handlerOfJson? : Json → Option (ScriptKey × List ScriptStep)
  | .list [key, .list steps] => do
    return (← ScriptKey.ofJson? key, ← steps.mapM ScriptStep.ofJson?)
  | _ => none

def Script.ofJson? (json : Json) : Option Script := do
  let id ← json.textAt? "id"
  let severity ← Severity.ofName? ((json.textAt? "severity").getD Severity.error.name)
  let messages ← (← json.member? "messages").textMap?
  let create ← (← json.listAt? "create").mapM ScriptStep.ofJson?
  let handlers ← (← json.listAt? "handlers").mapM handlerOfJson?
  let tracksClasses := ((json.member? "track_classes").bind Json.bool?).getD false
  return ⟨id, severity, messages, create, tracksClasses, handlers⟩

end AngularLint
