import AngularLint.AttributePath
import AngularLint.OrderedMap
import AngularLint.Span
import AngularLint.Text.Parts
import AngularLint.Text.Quoted

/-! Syntax nodes: a kind, a range of the source, children in source order, and attributes. An
attribute is a text, a flag, or one or several of the node's own children. Nodes are numbered in
pre-order, the root being 0, and the number tells two nodes of a file apart. -/

namespace AngularLint

/-- An attribute as a node holds it; children are given by their positions. -/
inductive Attribute where
  | text (value : String)
  | flag
  | child (position : Nat)
  | children (positions : List Nat)
deriving DecidableEq, Repr

structure Node where
  kind : String
  number : Nat
  span : Span
  attributes : OrderedMap String Attribute
  children : List Node

inductive Value where
  | text (value : String)
  | flag
  | node (node : Node)
  | nodes (nodes : List Node)

namespace Node

def valueOf (node : Node) : Attribute → Option Value
  | .text value => some (.text value)
  | .flag => some .flag
  | .child position => node.children[position]?.map .node
  | .children positions => some (.nodes (positions.filterMap fun i => node.children[i]?))

def attribute? (node : Node) (name : String) : Option Value :=
  (node.attributes.get? name).bind node.valueOf

end Node

namespace Value

def node? : Value → Option Node
  | .node inner => some inner
  | _ => none

def text? : Value → Option String
  | .text content => some content
  | _ => none

def isFlag : Value → Bool
  | .flag => true
  | _ => false

/-- Follows one step of a path. A value that occurred once is its own position 0. -/
def follow (value : Value) (segment : Segment) : Option Value :=
  match segment, value with
  | .name name, .node inner => inner.attribute? name
  | .position 0, .node inner => some (.node inner)
  | .position index, .nodes inners => inners[index]?.map .node
  | _, _ => none

end Value

/-- A position counted from the end of fewer values than that. -/
structure PositionFault where
  back : Nat
deriving DecidableEq, Repr

def PositionFault.message (fault : PositionFault) : String :=
  if fault.back ≤ Number.wordBound then "tuple index out of range" else Number.wordMessage

/-- A step of a path in which a position may also count from the end. -/
inductive Step where
  | along (segment : Segment)
  /-- The value `back` places before the end, the last one being 1 place before it. -/
  | fromEnd (back : Nat)
deriving DecidableEq, Repr

/-- Follows a step of a path. Counting from the end beyond the first of several values is a
fault. -/
def Value.walk (value : Value) : Step → Except PositionFault (Option Value)
  | .along segment => .ok (value.follow segment)
  | .fromEnd back =>
    match value with
    | .nodes inners =>
      if back ≤ inners.length then .ok (inners[inners.length - back]?.map .node)
      else .error ⟨back⟩
    | _ => .ok none

namespace Node

def lookup (node : Node) (path : AttributePath) : Option Value :=
  path.foldl (fun value segment => value.bind (·.follow segment)) (some (.node node))

def at? (node : Node) (names : List String) : Option Value :=
  node.lookup (.ofNames names)

def resolve (node : Node) (path : String) : Except Number.NumeralFault (Option Value) :=
  (AttributePath.read path).map node.lookup

def walk (node : Node) (steps : List Step) : Except PositionFault (Option Value) :=
  steps.foldlM (fun value step =>
    match value with
    | some value => value.walk step
    | none => .ok none) (some (.node node))

def childAt? (node : Node) (names : List String) : Option Node :=
  (node.at? names).bind Value.node?

def textAt? (node : Node) (names : List String) : Option String :=
  (node.at? names).bind Value.text?

def hasFlag (node : Node) (name : String) : Bool :=
  (node.attribute? name).any Value.isFlag

/-- An attribute that may be repeated, as a list of nodes. -/
def attributeNodes (node : Node) (name : String) : List Node :=
  match node.attribute? name with
  | some (.node child) => [child]
  | some (.nodes children) => children
  | _ => []

def childrenOfKind (node : Node) (kinds : List String) : List Node :=
  node.children.filter fun child => kinds.contains child.kind

def textIn (node : Node) (source : String) : String :=
  Text.slice source node.span.start node.span.stop

/-- The part of the source text in a range; an empty range stands for the node's own. The characters
of the range have to be countable. -/
def sourceText (node : Node) (source : String) (span : Span) : Except Uncountable String :=
  span.count.map fun count =>
    if count == 0 then node.textIn source else Text.slice source span.start span.stop

def shown (node : Node) : String :=
  s!"Node({Text.quoted node.kind}, {node.span.start}..{node.span.stop})"

end Node

end AngularLint
