import AngularLint.Angular.Decorators

/-! Components use signal inputs. Fields with an `@Input()` decorator are reported, and once per
file that `input` is never imported although there are such fields. -/

namespace AngularLint.Rules.SignalInputs

open AngularLint.Angular

def fieldKinds : List String := ["public_field_definition", "field_definition"]

def isDecoratedInput (cursor : Cursor) (classes : ClassStack) : Bool :=
  (enclosingClass? cursor).isSome && classes.inside "is-component" && hasDecorator cursor "Input"

def checkField : Handler (Memory Nat) := fun cursor memory =>
  if isDecoratedInput cursor memory.classes then
    ({ memory with own := memory.own + 1 }, [.note cursor.node.span "useSignalInput" []])
  else (memory, [])

def finish (cursor : Cursor) (memory : Memory Nat) : List Act :=
  if memory.own != 0 && !memory.imports.importsFrom coreModule "input" then
    [.note cursor.node.span "missingInputImport" []]
  else []

def rule : Rule where
  id := "enforce-signal-inputs"
  description := "Enforce the use of signal inputs instead of @Input() decorator"
  severity := .error
  fixable := false
  messages := .ofList
    [("useSignalInput",
      "Use input() or input.required() instead of @Input() decorator. " ++
        "Signal inputs provide better type safety and performance."),
     ("missingInputImport", "Import input from @angular/core to use signal inputs.")]
  Settings := Unit
  schema := noOptions
  checker := fun _ =>
    { State := Memory Nat
      start := fun context =>
        { acts := []
          state := .fresh 0
          handlers := .ofNamed
            (trackClasses (fun _ _ _ => []) ++
              [("import_statement", recordImports context.file.text),
               (endEvent, .stateless finish)] ++
              fieldKinds.map fun kind => (kind, checkField)) } }

end AngularLint.Rules.SignalInputs
