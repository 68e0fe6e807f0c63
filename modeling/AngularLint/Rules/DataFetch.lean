import AngularLint.Angular.Calls
import AngularLint.Text.Lower
import AngularLint.Text.Parts

/-! Components leave data loading to route resolvers. That a call fetches data is guessed from
names: an HTTP verb on a receiver whose name mentions one of some words, or a method name with a
word for fetching in it. Lifecycle hooks are not async and do not subscribe. -/

namespace AngularLint.Rules.DataFetch

open AngularLint.Angular AngularLint.Text

structure Settings where
  httpMethods : List String
  httpReceiverKeywords : List String
  fetchKeywords : List String
  lifecycleHooks : List String
deriving DecidableEq, Repr

def Settings.default : Settings where
  httpMethods := ["get", "post", "put", "patch", "delete", "head", "options"]
  httpReceiverKeywords := ["http", "api", "service"]
  fetchKeywords := ["fetch", "load", "get", "find", "search", "query", "retrieveData"]
  lifecycleHooks := ["ngOnInit", "ngAfterViewInit", "ngOnChanges"]

def methodsField : OptionField := ⟨"http_methods", "httpMethods"⟩

def receiversField : OptionField := ⟨"http_receiver_keywords", "httpReceiverKeywords"⟩

def keywordsField : OptionField := ⟨"fetch_keywords", "fetchKeywords"⟩

def hooksField : OptionField := ⟨"lifecycle_hooks", "lifecycleHooks"⟩

def schema : OptionSchema Settings where
  fields := [methodsField, receiversField, keywordsField, hooksField]
  read := fun raw =>
    let (methods, first) := methodsField.read raw Settings.default.httpMethods textsOption
    let (receivers, second) :=
      receiversField.read raw Settings.default.httpReceiverKeywords textsOption
    let (keywords, third) := keywordsField.read raw Settings.default.fetchKeywords textsOption
    let (hooks, fourth) := hooksField.read raw Settings.default.lifecycleHooks textsOption
    (⟨methods, receivers, keywords, hooks⟩, first ++ second ++ third ++ fourth)
  entries := fun settings =>
    [(methodsField.name, .texts settings.httpMethods),
     (receiversField.name, .texts settings.httpReceiverKeywords),
     (keywordsField.name, .texts settings.fetchKeywords),
     (hooksField.name, .texts settings.lifecycleHooks)]

/-- The name of the receiver of a member expression: the last member, or a plain name. -/
def receiverName? (member : Node) : Except Fault (Option String) :=
  (receiver? member).map fun receiver =>
    receiver.bind fun object =>
      if object.kind == "member_expression" then memberName? object else leafText? object

def mentions (name : String) (words : List String) : Bool :=
  words.any fun word => contains (lower name) (lower word)

def checkKeywords (settings : Settings) (call : Node) (method : String) : List Act :=
  if mentions method settings.fetchKeywords then [.note call.span "noDataFetchInComponent" []]
  else []

def checkMember (settings : Settings) (call member : Node) (method : String) : List Act :=
  if settings.httpMethods.contains method then
    match receiverName? member with
    | .error fault => [.fail fault]
    | .ok receiver =>
      if mentions (receiver.getD "") settings.httpReceiverKeywords then
        [.note call.span "noHttpInComponent" []]
      else checkKeywords settings call method
  else checkKeywords settings call method

def checkCall (settings : Settings) (cursor : Cursor) (memory : Memory Unit) : List Act :=
  if memory.classes.inside "is-component" then
    match callee? cursor.node with
    | none => []
    | some callee =>
      match memberName? callee with
      | none => []
      | some method => checkMember settings cursor.node callee method
  else []

def checkMethod (settings : Settings) (source : String) (cursor : Cursor) (memory : Memory Unit) :
    List Act :=
  let node := cursor.node
  if (enclosingClass? cursor).isSome && memory.classes.inside "is-component" &&
      (methodName? node).any settings.lifecycleHooks.contains then
    let first := if node.hasFlag "async" then [.note node.span "noAsyncInLifecycle" []] else []
    let second :=
      if contains (node.textIn source) ".subscribe(" then
        [.note node.span "noDataFetchInComponent" []]
      else []
    first ++ second
  else []

def rule : Rule where
  id := "no-component-data-fetch"
  description := "Prevent components from fetching data directly - use resolvers instead"
  severity := .error
  fixable := false
  messages := .ofList
    [("noDataFetchInComponent",
      "Components should not fetch data directly. " ++
        "Use route resolvers to load data before component initialization."),
     ("noHttpInComponent",
      "HTTP calls should not be made in components. Move data fetching to a resolver."),
     ("noAsyncInLifecycle",
      "Avoid async operations in component lifecycle hooks. Use resolvers for data loading.")]
  Settings := Settings
  schema := schema
  checker := fun settings =>
    { State := Memory Unit
      start := fun context =>
        { acts := []
          state := .fresh ()
          handlers := .ofNamed
            (trackClasses (fun _ _ _ => []) ++
              [("call_expression", .stateless (checkCall settings)),
               ("method_definition", .stateless (checkMethod settings context.file.text))]) } }

end AngularLint.Rules.DataFetch
