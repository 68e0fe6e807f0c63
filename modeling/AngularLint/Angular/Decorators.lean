import AngularLint.Rule

/-! Decorators and the classes that carry them. -/

namespace AngularLint.Angular

def coreModule : String := "@angular/core"

def classKinds : List String := ["class_declaration", "abstract_class_declaration", "class"]

def markOf? (decorator : String) : Option String :=
  if decorator == "Component" then some "is-component"
  else if decorator == "Injectable" then some "is-injectable"
  else if decorator == "Directive" then some "is-directive"
  else if decorator == "Pipe" then some "is-pipe"
  else none

/-- The mark that a class has besides each of `markOf?`. -/
def angularMark : String := "is-angular"

def leafText? (node? : Option Node) : Option String :=
  node?.bind (·.textAt? ["text"])

def leafTextAt? (node : Node) (name : String) : Option String :=
  leafText? (node.childAt? [name])

/-- The name that a decorator calls. A decorator without a call, or one that calls something other
than a plain name, has none. -/
def decoratorName? (decorator : Node) : Option String :=
  (decorator.childAt? ["call_expression"]).bind fun call =>
    (call.childAt? ["function"]).bind fun callee =>
      if callee.kind == "identifier" then leafText? callee else none

def decoratorArguments? (decorator : Node) : Option (List Node) :=
  (decorator.childAt? ["call_expression", "arguments"]).map Node.children

/-- The decorators of a class; those before `export` come first. -/
def classDecorators (cursor : Cursor) : List Node :=
  let own := cursor.node.attributeNodes "decorator"
  match cursor.parent? with
  | some parent =>
    if parent.kind == "export_statement" then parent.attributeNodes "decorator" ++ own else own
  | none => own

/-- The decorators directly before a member among the children of a class body; `leading` holds the
run of decorators just passed. -/
def leadingDecorators? (member : Node) (leading : List Node) : List Node → Option (List Node)
  | [] => none
  | child :: rest =>
    if child.number == member.number then some leading
    else if child.kind == "decorator" then leadingDecorators? member (leading ++ [child]) rest
    else leadingDecorators? member [] rest

/-- The decorators of a class member or a parameter. Those of a method stand before it in the class
body, and come first. -/
def memberDecorators (cursor : Cursor) : List Node :=
  let own := cursor.node.attributeNodes "decorator"
  match cursor.parent? with
  | some body =>
    if body.kind == "class_body" then
      ((leadingDecorators? cursor.node [] body.children).map (· ++ own)).getD own
    else own
  | none => own

def hasDecorator (cursor : Cursor) (name : String) : Bool :=
  (memberDecorators cursor).any fun decorator => decoratorName? decorator == some name

def className? (node : Node) : Option String :=
  leafTextAt? node "name"

def addMark (marks : List String) (mark : String) : List String :=
  if marks.contains mark then marks else marks ++ [mark]

def marksOf (decorators : List Node) : List String :=
  (decorators.filterMap fun decorator => (decoratorName? decorator).bind markOf?).foldl
    (fun marks mark => addMark (addMark marks mark) angularMark) []

def classify (cursor : Cursor) : ClassFrame :=
  ⟨className? cursor.node, marksOf (classDecorators cursor), some cursor.node⟩

/-- Runs `onEnter` with the new frame on top. -/
def pushClass {α : Type} (onEnter : Cursor → ClassFrame → Memory α → List Act) :
    Handler (Memory α) :=
  fun cursor memory =>
    let inside := { memory with classes := classify cursor :: memory.classes }
    (inside, onEnter cursor (classify cursor) inside)

def popClass {α : Type} : Handler (Memory α) := fun _ memory =>
  match memory.classes with
  | [] => (memory, [.fail .noOpenClass])
  | _ :: outer => ({ memory with classes := outer }, [])

/-- Handlers that keep the open classes: a class is pushed when it is entered and popped when it is
left. -/
def trackClasses {α : Type} (onEnter : Cursor → ClassFrame → Memory α → List Act) :
    List (String × Handler (Memory α)) :=
  classKinds.flatMap fun kind => [(kind, pushClass onEnter), (kind ++ exitSuffix, popClass)]

/-- The class whose body has the node as a direct member. -/
def enclosingClass? (cursor : Cursor) : Option Node :=
  match cursor.ancestors with
  | body :: owner :: _ =>
    if body.kind == "class_body" && classKinds.contains owner.kind then some owner else none
  | _ => none

end AngularLint.Angular
