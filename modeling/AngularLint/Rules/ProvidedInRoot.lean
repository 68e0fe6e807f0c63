import AngularLint.Angular.Literals

/-! Services are provided in the root injector. A call of `@Injectable` without a `providedIn`, or
with another literal there, is reported and repaired. -/

namespace AngularLint.Rules.ProvidedInRoot

open AngularLint.Angular

def rootObject : String := "\x7b providedIn: 'root' \x7d"

def injectable : Selector :=
  ⟨"decorator",
    [⟨.ofNames ["call_expression", "function", "text"], some (.text "Injectable")⟩]⟩

/-- Checks a decorator without arguments; the repair goes before the closing parenthesis. -/
def checkEmpty (decorator arguments : Node) : List Act :=
  let last : Int := Int.ofNat arguments.span.stop - 1
  match Span.between last last with
  | .error invalid => [.fail (.invalidSpan invalid)]
  | .ok paren => [.repair decorator.span "missingProvidedIn" [] (.insertBefore paren rootObject)]

def checkMetadata (source : String) (metadata : Node) : List Act :=
  match findProperty? metadata "providedIn" with
  | none =>
    let edit :=
      match objectProperties metadata with
      | [] => Edit.replace metadata.span rootObject
      | first :: _ => Edit.insertBefore first.span "providedIn: 'root', "
    [.repair metadata.span "missingProvidedIn" [] edit]
  | some property =>
    match propertyValue? property with
    | none => []
    | some value =>
      let literal := stringValue? value
      if !isLiteral value || literal == some "root" then []
      else
        [.repair value.span "incorrectProvidedIn" [("value", literal.getD (value.textIn source))]
          (.replace value.span "'root'")]

def check (source : String) (decorator : Node) : List Act :=
  match decorator.childAt? ["call_expression", "arguments"] with
  | none => []
  | some arguments =>
    match arguments.children with
    | [] => checkEmpty decorator arguments
    | metadata :: _ => if metadata.kind == "object" then checkMetadata source metadata else []

def rule : Rule where
  id := "enforce-injectable-provided-in-root"
  description := "Enforce that all services use providedIn: 'root'"
  severity := .error
  fixable := true
  messages := .ofList
    [("missingProvidedIn", "Injectable services must use providedIn: 'root'"),
     ("incorrectProvidedIn",
      "Injectable services must use providedIn: 'root', not '\x7b\x7b value \x7d\x7d'")]
  Settings := Unit
  schema := noOptions
  checker := fun _ =>
    { State := Unit
      start := fun context =>
        { acts := []
          state := ()
          handlers := .ofList
            [(.selector injectable,
              .stateless fun cursor _ => check context.file.text cursor.node)] } }

end AngularLint.Rules.ProvidedInRoot
