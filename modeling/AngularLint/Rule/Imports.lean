import AngularLint.Node

/-! Names bound by import statements. -/

namespace AngularLint

/-- A local name and what it stands for. The imported name of a default import is `default`, that of
a namespace import is `*`. -/
structure ImportBinding where
  localName : String
  importedName : String
  modulePath : String
deriving DecidableEq, Repr

/-- The bindings seen so far, by local name. A name that is bound again keeps its place. -/
abbrev ImportTable := OrderedMap String ImportBinding

/-- The name that a node stands for: the value of a string, else the text of a leaf. -/
def nameText? (node : Node) : Option String :=
  if node.kind == "string" then node.textAt? ["value"] else node.textAt? ["text"]

/-- The binding of a specifier with or without an alias. An empty alias counts as none. -/
def specifierBinding? (specifier : Node) (modulePath : String) : Option ImportBinding :=
  ((specifier.childAt? ["name"]).bind nameText?).map fun imported =>
    let renamed := ((specifier.childAt? ["alias"]).bind nameText?).filter fun name => !name.isEmpty
    ⟨renamed.getD imported, imported, modulePath⟩

def clausePartBindings (source modulePath : String) (part : Node) : List ImportBinding :=
  if part.kind == "identifier" then [⟨part.textIn source, "default", modulePath⟩]
  else if part.kind == "namespace_import" then
    ((part.textAt? ["identifier", "text"]).map fun name => ⟨name, "*", modulePath⟩).toList
  else if part.kind == "named_imports" then
    (part.childrenOfKind ["import_specifier"]).filterMap (specifierBinding? · modulePath)
  else []

def importBindings (source : String) (statement : Node) : List ImportBinding :=
  match statement.textAt? ["source", "value"], statement.childAt? ["import_clause"] with
  | some modulePath, some clause => clause.children.flatMap (clausePartBindings source modulePath)
  | _, _ => []

namespace ImportTable

def bind (table : ImportTable) (bindings : List ImportBinding) : ImportTable :=
  bindings.foldl (fun table binding => table.insert binding.localName binding) table

def record (table : ImportTable) (source : String) (statement : Node) : ImportTable :=
  table.bind (importBindings source statement)

def bindingsFrom (table : ImportTable) (modulePath : String) : List ImportBinding :=
  table.values.filter fun binding => binding.modulePath == modulePath

/-- Is this name of a module imported, under whatever local name? -/
def importsFrom (table : ImportTable) (modulePath importedName : String) : Bool :=
  (table.bindingsFrom modulePath).any fun binding => binding.importedName == importedName

end ImportTable

end AngularLint
