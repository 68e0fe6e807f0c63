import AngularLint.Node
import AngularLint.Number.Shortest

/-! Selectors: a node kind, and constraints on what attribute paths lead to. A constraint asks that
there is something at the end of a path, or that it equals a literal. -/

namespace AngularLint

inductive Literal where
  | text (value : String)
  | flag (value : Bool)
  | null
  | int (value : Int)
  | float (value : Float)

/-- What has to be at the end of a path: anything at all, or a value that equals the literal. -/
structure Constraint where
  path : AttributePath
  expected : Option Literal

structure Selector where
  kind : String
  constraints : List Constraint

namespace Literal

/-- A backslash or a double quote inside a literal has a backslash before it. -/
def escapeChar (c : Char) : List Char :=
  if c == '\\' || c == '"' then ['\\', c] else [c]

def shown : Literal → String
  | .text value => String.ofList ('"' :: value.toList.flatMap escapeChar ++ ['"'])
  | .flag value => if value then "true" else "false"
  | .null => "null"
  | .int value => toString value
  | .float value => Number.floatText value

/-- Does a literal equal what stands in a tree? Trees hold texts and flags that are set. -/
def equals : Literal → Value → Bool
  | .text expected, .text found => expected == found
  | .flag expected, .flag => expected
  | _, _ => false

/-- The whole number that a literal counts as: a flag is 1 or 0. -/
def whole? : Literal → Option Int
  | .int value => some value
  | .flag value => some (if value then 1 else 0)
  | _ => none

def floatIsWhole (x : Float) (number : Int) : Bool :=
  match Number.Binary.ofFloat x with
  | .finite negative mantissa exponent =>
    let magnitude := mantissa * Number.twoTo exponent
    number.natAbs * Number.twoTo (-exponent) == magnitude &&
      (mantissa == 0 || negative == (number < 0))
  | _ => false

/-- Equality of literals by value: numbers are equal across their kinds. -/
def same (first second : Literal) : Bool :=
  match first, second with
  | .text a, .text b => a == b
  | .null, .null => true
  | .float a, .float b => a == b
  | .float a, other => other.whole?.any (floatIsWhole a)
  | other, .float b => other.whole?.any (floatIsWhole b)
  | a, b =>
    match a.whole?, b.whole? with
    | some a, some b => a == b
    | _, _ => false

end Literal

namespace Constraint

def holds (constraint : Constraint) (node : Node) : Bool :=
  match node.lookup constraint.path with
  | none => false
  | some value =>
    match constraint.expected with
    | none => true
    | some literal => literal.equals value

def shown (constraint : Constraint) : String :=
  match constraint.expected with
  | none => s!"[{constraint.path.text}]"
  | some literal => s!"[{constraint.path.text}={literal.shown}]"

def same (first second : Constraint) : Bool :=
  first.path == second.path &&
    match first.expected, second.expected with
    | none, none => true
    | some a, some b => a.same b
    | _, _ => false

end Constraint

namespace Selector

def holds (selector : Selector) (node : Node) : Bool :=
  node.kind == selector.kind && selector.constraints.all (·.holds node)

def shown (selector : Selector) : String :=
  String.join (selector.kind :: selector.constraints.map Constraint.shown)

def sameAll : List Constraint → List Constraint → Bool
  | [], [] => true
  | a :: rest, b :: others => a.same b && sameAll rest others
  | _, _ => false

def same (first second : Selector) : Bool :=
  first.kind == second.kind && sameAll first.constraints second.constraints

end Selector

end AngularLint
