import AngularLint.OrderedMap

/-! JSON data. Whole numbers and other numbers are kept apart, and an object keeps its members in
the order in which they came. -/

namespace AngularLint

inductive Json where
  | null
  | bool (value : Bool)
  | int (value : Int)
  | float (value : Float)
  | string (value : String)
  | list (items : List Json)
  | object (members : List (String × Json))

abbrev JsonObject := OrderedMap String Json

namespace Json

def member? (key : String) : Json → Option Json
  | .object members => members.lookup key
  | _ => none

def string? : Json → Option String
  | .string value => some value
  | _ => none

def bool? : Json → Option Bool
  | .bool value => some value
  | _ => none

def int? : Json → Option Int
  | .int value => some value
  | _ => none

def nat? : Json → Option Nat
  | .int (.ofNat value) => some value
  | _ => none

def list? : Json → Option (List Json)
  | .list items => some items
  | _ => none

def object? : Json → Option JsonObject
  | .object members => some ⟨members⟩
  | _ => none

end Json

end AngularLint
