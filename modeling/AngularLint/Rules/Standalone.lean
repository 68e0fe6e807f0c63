import AngularLint.Angular.Literals
import AngularLint.Text.Character
import AngularLint.Text.Parts

/-! Components are standalone: their metadata says so, and no module class of Angular is imported. A
missing or wrong property is repaired. -/

namespace AngularLint.Rules.Standalone

open AngularLint.Angular AngularLint.Text

def component : Selector :=
  ⟨"decorator",
    [⟨.ofNames ["call_expression", "function", "text"], some (.text "Component")⟩]⟩

def importWithClause : Selector :=
  ⟨"import_statement",
    [⟨.ofNames ["source", "value"], none⟩, ⟨.ofNames ["import_clause"], none⟩]⟩

def moduleClasses : List String :=
  ["CommonModule", "BrowserModule", "FormsModule", "ReactiveFormsModule", "HttpClientModule",
   "RouterModule"]

/-- Where a search between two tokens is: between comments, or inside one. -/
inductive Gap where
  | between
  | lineComment
  | blockComment
deriving DecidableEq, Repr

/-- The offset of a comma that only blanks and comments separate from here; `offset` belongs to the
first character of the text. -/
def commaFrom : Gap → Nat → List Char → Option Nat
  | _, _, [] => none
  | .between, offset, [c] => if c == ',' then some offset else none
  | .lineComment, _, [_] => none
  | .blockComment, _, [_] => none
  | .between, offset, c :: next :: rest =>
    if isBlank c then commaFrom .between (offset + 1) (next :: rest)
    else if c == '/' && next == '/' then commaFrom .lineComment (offset + 2) rest
    else if c == '/' && next == '*' then commaFrom .blockComment (offset + 2) rest
    else if c == ',' then some offset
    else none
  | .lineComment, offset, c :: next :: rest =>
    if c == '\n' then commaFrom .between (offset + 1) (next :: rest)
    else commaFrom .lineComment (offset + 1) (next :: rest)
  | .blockComment, offset, c :: next :: rest =>
    if c == '*' && next == '/' then commaFrom .between (offset + 2) rest
    else commaFrom .blockComment (offset + 1) (next :: rest)

def commaAfter? (source : String) (property : Node) : Option Nat :=
  commaFrom .between property.span.stop (source.toList.drop property.span.stop)

/-- The edit that adds the missing property: in place of an empty object, else after the selector,
else before the first property. -/
def addProperty (file : SourceFile) (metadata : Node) : Edit :=
  match objectProperties metadata with
  | [] => .replace metadata.span "\x7b standalone: true \x7d"
  | first :: _ =>
    match findProperty? metadata "selector" with
    | none =>
      .insertBefore first.span ("standalone: true,\n" ++ file.lineIndent first.span.start)
    | some selector =>
      let indent := file.lineIndent selector.span.start
      match commaAfter? file.text selector with
      | some comma => .insertBefore (.point (comma + 1)) ("\n" ++ indent ++ "standalone: true,")
      | none => .insertAfter selector.span (",\n" ++ indent ++ "standalone: true")

def checkMetadata (file : SourceFile) (metadata : Node) : List Act :=
  match findProperty? metadata "standalone" with
  | none => [.repair metadata.span "notStandalone" [] (addProperty file metadata)]
  | some property =>
    match propertyValue? property with
    | none => []
    | some value =>
      if !isLiteral value || value.kind == "true" then []
      else
        [.repair value.span "standaloneNotTrue" [("value", value.textIn file.text)]
          (.replace value.span "true")]

def checkComponent (file : SourceFile) (decorator : Node) : List Act :=
  match decoratorArguments? decorator with
  | some (metadata :: _) => if metadata.kind == "object" then checkMetadata file metadata else []
  | _ => []

def checkImport (statement : Node) : List Act :=
  match statement.textAt? ["source", "value"],
      statement.childAt? ["import_clause", "named_imports"] with
  | some modulePath, some named =>
    if startsWith modulePath "@angular/" then
      (named.childrenOfKind ["import_specifier"]).filterMap fun specifier =>
        (specifierBinding? specifier modulePath).bind fun binding =>
          if moduleClasses.contains binding.importedName then
            some (.note specifier.span "noNgModule" [])
          else none
    else []
  | _, _ => []

def rule : Rule where
  id := "enforce-standalone-components"
  description := "Enforce that all components are standalone"
  severity := .error
  fixable := true
  messages := .ofList
    [("notStandalone",
      "Components must be standalone. Add \"standalone: true\" to the component decorator"),
     ("standaloneNotTrue",
      "Components must have standalone: true, not \x7b\x7b value \x7d\x7d"),
     ("noNgModule", "Do not import NgModules. Components should be standalone")]
  Settings := Unit
  schema := noOptions
  checker := fun _ =>
    { State := Unit
      start := fun context =>
        { acts := []
          state := ()
          handlers := .ofList
            [(.selector component,
              .stateless fun cursor _ => checkComponent context.file cursor.node),
             (.selector importWithClause, .stateless fun cursor _ => checkImport cursor.node)] } }

end AngularLint.Rules.Standalone
