import AngularLint.Angular.Decorators

/-! Object literals and other literals. -/

namespace AngularLint.Angular

def literalKinds : List String := ["string", "number", "true", "false", "null", "regex"]

def propertyKinds : List String :=
  ["pair", "shorthand_property_identifier", "method_definition", "spread_element"]

def objectProperties (object : Node) : List Node :=
  object.childrenOfKind propertyKinds

def propertyKey? (property : Node) : Option String :=
  if property.kind == "shorthand_property_identifier" then leafText? property
  else
    (property.childAt? [if property.kind == "pair" then "key" else "name"]).bind nameText?

def findProperty? (object : Node) (key : String) : Option Node :=
  (objectProperties object).find? fun property => propertyKey? property == some key

def propertyValue? (property : Node) : Option Node :=
  if property.kind == "pair" then property.childAt? ["value"] else none

def isLiteral (node? : Option Node) : Bool :=
  node?.any fun node => literalKinds.contains node.kind

def stringValue? (node? : Option Node) : Option String :=
  node?.bind fun node => if node.kind == "string" then node.textAt? ["value"] else none

end AngularLint.Angular
