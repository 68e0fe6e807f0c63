import AngularLint.Angular.Calls

/-! Services do not use constructor injection. The constructor is reported, and the whole file too
if `inject` has not been imported up to there. -/

namespace AngularLint.Rules.ServiceInjection

open AngularLint.Angular

def injectingConstructor? (classNode : Node) : Option Node :=
  (findConstructor? classNode).filter fun constructor =>
    (methodParameters constructor).any fun parameter =>
      isParameterProperty parameter || hasTypeAnnotation parameter

def check (root : Node) (cursor : Cursor) (frame : ClassFrame) (memory : Memory Unit) : List Act :=
  if frame.marks.contains "is-injectable" then
    match injectingConstructor? cursor.node with
    | none => []
    | some constructor =>
      let whole :=
        if memory.imports.importsFrom coreModule "inject" then []
        else [.note root.span "useInjectFunction" []]
      .note constructor.span "useInjectFunction" [] :: whole
  else []

def rule : Rule where
  id := "enforce-inject-function"
  description :=
    "Enforce the use of inject() function instead of constructor injection in services"
  severity := .error
  fixable := false
  messages := .ofList
    [("useInjectFunction",
      "Use inject() function instead of constructor injection. " ++
        "Example: private userService = inject(UserService);")]
  Settings := Unit
  schema := noOptions
  checker := fun _ =>
    { State := Memory Unit
      start := fun context =>
        { acts := []
          state := .fresh ()
          handlers := .ofNamed
            (trackClasses (check context.root) ++
              [("import_statement", recordImports context.file.text)]) } }

end AngularLint.Rules.ServiceInjection
