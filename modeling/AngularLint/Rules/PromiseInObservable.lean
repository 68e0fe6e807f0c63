import AngularLint.Angular.Calls
import AngularLint.Text.Parts

/-! Promises stay out of observable pipelines. A call counts as one that gives a promise by its name
alone: a configured name, a configured start of a method name, or a method of the file that is async
or declares a promise, once the walk has passed it. -/

namespace AngularLint.Rules.PromiseInObservable

open AngularLint.Angular AngularLint.Text

structure Settings where
  knownPromiseFunctions : List String
  promiseMethodPrefixes : List String
deriving DecidableEq, Repr

def Settings.default : Settings where
  knownPromiseFunctions :=
    ["fetch", "getDoc", "getDocs", "setDoc", "updateDoc", "deleteDoc", "addDoc",
     "signInWithPopup", "signInWithEmailAndPassword", "createUserWithEmailAndPassword", "signOut"]
  promiseMethodPrefixes := ["get", "fetch", "load", "save", "create", "update", "delete"]

def knownField : OptionField := ⟨"known_promise_functions", "knownPromiseFunctions"⟩

def prefixesField : OptionField := ⟨"promise_method_prefixes", "promiseMethodPrefixes"⟩

def schema : OptionSchema Settings where
  fields := [knownField, prefixesField]
  read := fun raw =>
    let (known, first) := knownField.read raw Settings.default.knownPromiseFunctions textsOption
    let (prefixes, second) :=
      prefixesField.read raw Settings.default.promiseMethodPrefixes textsOption
    (⟨known, prefixes⟩, first ++ second)
  entries := fun settings =>
    [(knownField.name, .texts settings.knownPromiseFunctions),
     (prefixesField.name, .texts settings.promiseMethodPrefixes)]

def promiseStatics : List String := ["resolve", "reject", "all", "race"]

def isPromiseStatic (callee : Node) : Except Fault Bool :=
  if callee.kind == "member_expression" then
    (receiver? callee).map fun receiver =>
      leafText? receiver == some "Promise" &&
        (memberName? callee).any promiseStatics.contains
  else .ok false

/-- Is an async function called, directly or through one of its members? -/
def invokesAsyncFunction (callee : Node) : Bool :=
  isAsyncFunction callee ||
    (callee.kind == "member_expression" && isAsyncFunction (callee.childAt? ["object"]))

/-- Is a method async, or does its return type mention a promise? -/
def returnsPromise (source : String) (method : Node) : Bool :=
  method.hasFlag "async" ||
    (method.childAt? ["return_type"]).any fun type => contains (type.textIn source) "Promise"

/-- Is this the `from` of the observable library? A file that does not import the name is taken to
mean that one. -/
def isObservableFrom (imports : ImportTable) (callee : Node) : Bool :=
  callee.kind == "identifier" && leafText? callee == some "from" &&
    match imports.get? "from" with
    | none => true
    | some binding => binding.importedName == "from" && startsWith binding.modulePath "rxjs"

def isPromiseName (settings : Settings) (methods : List String) (callee : Node) : Bool :=
  if callee.kind == "identifier" then
    (leafText? callee).any fun name =>
      settings.knownPromiseFunctions.contains name || methods.contains name
  else
    (memberName? callee).any fun name =>
      settings.knownPromiseFunctions.contains name || methods.contains name ||
        settings.promiseMethodPrefixes.any (startsWith name)

def recordMethod (source : String) : Handler (Memory (List String)) := fun cursor memory =>
  match methodName? cursor.node with
  | some name =>
    if returnsPromise source cursor.node then ({ memory with own := name :: memory.own }, [])
    else (memory, [])
  | none => (memory, [])

def checkSource (settings : Settings) (methods : List String) (call argument : Node) : List Act :=
  match callee? argument with
  | none => []
  | some callee =>
    match isPromiseStatic callee with
    | .error fault => [.fail fault]
    | .ok true => [.note call.span "noPromiseInObservable" []]
    | .ok false =>
      if isPromiseName settings methods callee || invokesAsyncFunction callee then
        [.note call.span "avoidFromPromise" []]
      else []

def checkCall (settings : Settings) (cursor : Cursor) (memory : Memory (List String)) : List Act :=
  if (callee? cursor.node).any (isObservableFrom memory.imports) then
    match unwrapParens? (callArguments cursor.node).head? with
    | none => []
    | some argument =>
      if argument.kind == "call_expression" then
        checkSource settings memory.own cursor.node argument
      else []
  else []

def wrapperMarkers : List String := ["await", ".then(", "Promise."]

def checkNew (source : String) (node : Node) : List Act :=
  if leafTextAt? node "constructor" == some "Observable" then
    match unwrapParens? (callArguments node).head? with
    | none => []
    | some body =>
      if functionKinds.contains body.kind &&
          wrapperMarkers.any (contains (body.textIn source)) then
        [.note node.span "avoidObservableWrapper" []]
      else []
  else []

def rule : Rule where
  id := "no-promise-in-observable"
  description := "Prevent mixing Promises with Observables"
  severity := .warn
  fixable := false
  messages := .ofList
    [("noPromiseInObservable",
      "Do not mix Promises with Observables. " ++
        "Use Observable-based APIs or convert at service boundary."),
     ("avoidFromPromise",
      "Avoid using from() with Promises. " ++
        "Use Observable-based APIs (e.g., AngularFire observables) instead."),
     ("avoidObservableWrapper",
      "Avoid wrapping Promises in Observables. Use native Observable APIs.")]
  Settings := Settings
  schema := schema
  checker := fun settings =>
    { State := Memory (List String)
      start := fun context =>
        { acts := []
          state := .fresh []
          handlers := .ofNamed
            [("import_statement", recordImports context.file.text),
             ("method_definition", recordMethod context.file.text),
             ("call_expression", .stateless (checkCall settings)),
             ("new_expression",
              .stateless fun cursor _ => checkNew context.file.text cursor.node)] } }

end AngularLint.Rules.PromiseInObservable
