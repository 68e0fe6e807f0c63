import AngularLint.Angular.Calls

/-! Angular classes get their services by `inject()`. Each constructor parameter that looks injected
is reported, and the constructor after them. -/

namespace AngularLint.Rules.ConstructorInjection

open AngularLint.Angular

/-- The name of a parameter that is reported on its own. A parameter with decorators is, only if one
of them calls `Inject`. -/
def injectedName? (parameter : Node) : Option String :=
  if isParameterProperty parameter then parameterName? parameter
  else
    match parameter.attributeNodes "decorator" with
    | [] => if hasTypeAnnotation parameter then parameterName? parameter else none
    | decorators =>
      if decorators.any fun decorator => decoratorName? decorator == some "Inject" then
        parameterName? parameter
      else none

def looksInjected (parameter : Node) : Bool :=
  isParameterProperty parameter || !(parameter.attributeNodes "decorator").isEmpty ||
    hasTypeAnnotation parameter

def checkParameters (parameters : List Node) : List Act :=
  parameters.filterMap fun parameter =>
    (injectedName? parameter).map fun name =>
      .note parameter.span "useInjectFunction" [("serviceName", name)]

def checkConstructor (method : Node) : List Act :=
  let parameters := methodParameters method
  let whole :=
    if parameters.any looksInjected then
      [.note ((method.childAt? ["name"]).getD method).span "avoidConstructor" []]
    else []
  checkParameters parameters ++ whole

/-- Checks a method: only constructors directly in an Angular class matter. -/
def check (cursor : Cursor) (memory : Memory Unit) : List Act :=
  if methodName? cursor.node == some "constructor" && (enclosingClass? cursor).isSome &&
      memory.classes.inside angularMark then
    checkConstructor cursor.node
  else []

def rule : Rule where
  id := "use-inject-function"
  description := "Enforce using inject() function instead of constructor injection"
  severity := .warn
  fixable := false
  messages := .ofList
    [("useInjectFunction",
      "Use inject() function instead of constructor injection. " ++
        "Move \"\x7b\x7b serviceName \x7d\x7d\" to a class property with inject()."),
     ("avoidConstructor",
      "Avoid using constructor for dependency injection. " ++
        "Use inject() function in class properties instead.")]
  Settings := Unit
  schema := noOptions
  checker := fun _ =>
    { State := Memory Unit
      start := fun _ =>
        { acts := []
          state := .fresh ()
          handlers := .ofNamed
            (trackClasses (fun _ _ _ => []) ++ [("method_definition", .stateless check)]) } }

end AngularLint.Rules.ConstructorInjection
