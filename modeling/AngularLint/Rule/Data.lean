import AngularLint.Json.Value
import AngularLint.Node
import AngularLint.Number.Shortest

/-! How values of all kinds read in the data of a finding. A text stands there as it is and a flag
as `true` or `false`; inside a list or an object texts are quoted and flags have a capital
letter. -/

namespace AngularLint

open AngularLint.Text

mutual

def Json.nestedText : Json → String
  | .null => "None"
  | .bool value => if value then "True" else "False"
  | .int value => toString value
  | .float value => Number.floatText value
  | .string value => quoted value
  | .list items => "[" ++ ", ".intercalate (Json.nestedTexts items) ++ "]"
  | .object members => "\x7b" ++ ", ".intercalate (Json.memberTexts members) ++ "\x7d"

def Json.nestedTexts : List Json → List String
  | [] => []
  | item :: rest => item.nestedText :: Json.nestedTexts rest

def Json.memberTexts : List (String × Json) → List String
  | [] => []
  | (key, value) :: rest => (quoted key ++ ": " ++ value.nestedText) :: Json.memberTexts rest

end

def flagText (value : Bool) : String :=
  if value then "true" else "false"

def Json.dataText : Json → String
  | .string value => value
  | .bool value => flagText value
  | other => other.nestedText

/-- What an attribute path leads to, in the data of a finding; `none` is a path that leads
nowhere. -/
def attributeText : Option Value → String
  | none => "None"
  | some (.text content) => content
  | some .flag => flagText true
  | some (.node inner) => inner.shown
  | some (.nodes inners) => "(" ++ ", ".intercalate (inners.map Node.shown) ++ ")"

end AngularLint
