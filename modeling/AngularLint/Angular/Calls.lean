import AngularLint.Angular.Literals

/-! Calls, functions, methods and their parameters. -/

namespace AngularLint.Angular

def functionKinds : List String :=
  ["arrow_function", "function_expression", "function", "generator_function"]

def parameterKinds : List String := ["required_parameter", "optional_parameter"]

/-- The expression inside parentheses, however many there are. Empty parentheses hold none. -/
def innermost? : Node → Option Node
  | ⟨kind, number, span, attributes, children⟩ =>
    if kind == "parenthesized_expression" then
      match children with
      | [] => none
      | inner :: _ => innermost? inner
    else some ⟨kind, number, span, attributes, children⟩

def unwrapParens? (node? : Option Node) : Option Node :=
  node?.bind innermost?

def callee? (call : Node) : Option Node :=
  unwrapParens? (call.childAt? ["function"])

def callArguments (call : Node) : List Node :=
  ((call.childAt? ["arguments"]).map Node.children).getD []

def memberName? (member? : Option Node) : Option String :=
  member?.bind fun member =>
    if member.kind == "member_expression" then leafTextAt? member "property" else none

def isAsyncFunction (node? : Option Node) : Bool :=
  (unwrapParens? node?).any fun inner => functionKinds.contains inner.kind && inner.hasFlag "async"

def methodName? (method : Node) : Option String :=
  (method.childAt? ["name"]).bind nameText?

def findConstructor? (classNode : Node) : Option Node :=
  (classNode.childAt? ["body"]).bind fun body =>
    (body.childrenOfKind ["method_definition"]).find? fun member =>
      methodName? member == some "constructor"

def methodParameters (method : Node) : List Node :=
  ((method.childAt? ["parameters"]).map (·.childrenOfKind parameterKinds)).getD []

/-- Does a parameter declare a property of the class? -/
def isParameterProperty (parameter : Node) : Bool :=
  (parameter.childAt? ["accessibility_modifier"]).isSome || parameter.hasFlag "readonly"

/-- The name of a parameter that is a plain name. -/
def parameterName? (parameter : Node) : Option String :=
  (parameter.childAt? ["pattern"]).bind fun pattern =>
    if pattern.kind == "identifier" then leafText? pattern else none

def hasTypeAnnotation (parameter : Node) : Bool :=
  (parameter.childAt? ["type"]).isSome

/-- The receiver of a member expression without parentheses; a receiver that occurs more than once
is a fault. -/
def receiver? (member : Node) : Except Fault (Option Node) :=
  match member.attribute? "object" with
  | some (.node object) => .ok (unwrapParens? object)
  | some (.nodes _) => .error .repeatedField
  | _ => .ok none

end AngularLint.Angular
