import AngularLint.Proofs.Decorations
import AngularLint.Proofs.ImportHistory
import AngularLint.Proofs.InjectedParameters
import AngularLint.Proofs.Responses

/-! Which services are reported for injection by their constructor. The file is reported along with a
service unless `inject` has been imported, and what counts for that are the import statements above
the service: one below it comes too late. -/

namespace AngularLint.Proofs.InjectingServices
open AngularLint.Angular AngularLint.Rules ClassFrames ClassWalk Decorations EngineTrace
open ImportHistory Reactions Responses

/-- A parameter declares a property or has a type. -/
def Injects (constructor : Node) : Prop :=
  ∃ parameter ∈ methodParameters constructor,
    isParameterProperty parameter = true ∨ hasTypeAnnotation parameter = true

instance (constructor : Node) : Decidable (Injects constructor) :=
  inferInstanceAs (Decidable (∃ parameter ∈ methodParameters constructor, _))

/-- The first constructor of a service, if a parameter of it is injected. -/
def service? (cursor : Cursor) : Option Node :=
  if cursor.node.kind ∈ classKinds ∧ Carries cursor "Injectable" then
    (findConstructor? cursor.node).filter fun constructor => Injects constructor
  else none

def serviceActs (root : Node) (imported : Prop) [Decidable imported] (cursor : Cursor) : List Act :=
  match service? cursor with
  | none => []
  | some constructor =>
    .note constructor.span "useInjectFunction" [] ::
      if imported then [] else [.note root.span "useInjectFunction" []]

/-- The constructor of a service is reported, and the file behind it if the import is missing. -/
def serviceReports (severity : Severity) (root : Node) (imported : Prop) [Decidable imported]
    (cursor : Cursor) : List Diagnostic :=
  match service? cursor with
  | none => []
  | some constructor =>
    noted ServiceInjection.rule severity constructor.span "useInjectFunction" [] ::
      if imported then []
      else [noted ServiceInjection.rule severity root.span "useInjectFunction" []]

/-- No import statement stands behind a service that is reported. -/
def ImportsFirst (root : Node) : Prop :=
  root.cursors.Pairwise fun one later =>
    (service? one).isSome → later.node.kind ≠ "import_statement"

theorem injectingConstructor?_eq (classNode : Node) :
    ServiceInjection.injectingConstructor? classNode =
      (findConstructor? classNode).filter fun constructor => Injects constructor := by
  rw [ServiceInjection.injectingConstructor?]
  congr 1
  funext constructor
  rw [Bool.eq_iff_iff, List.any_eq_true, decide_eq_true_iff]
  simp only [Injects, Bool.or_eq_true]

theorem check_eq (source : String) (root : Node) {cursor : Cursor}
    (isClass : cursor.node.kind ∈ classKinds) (earlier : List Cursor) (classes : ClassStack) :
    ServiceInjection.check root cursor (classify cursor) ⟨tableAfter source earlier, classes, ()⟩ =
      serviceActs root (Imported (bindingsIn source earlier) coreModule "inject") cursor := by
  have marked : (classify cursor).marks.contains "is-injectable" = true ↔
      Carries cursor "Injectable" := by
    rw [List.contains_iff_mem]
    exact marked_iff rfl cursor
  have imported := tableOf_importsFrom (bindingsIn source earlier) coreModule "inject"
  rw [ServiceInjection.check, serviceActs, injectingConstructor?_eq]
  by_cases carries : Carries cursor "Injectable"
  · have served : service? cursor = (findConstructor? cursor.node).filter fun constructor =>
        Injects constructor := if_pos ⟨isClass, carries⟩
    rw [if_pos (marked.mpr carries), served]
    cases (findConstructor? cursor.node).filter fun constructor => Injects constructor with
    | none => rfl
    | some constructor => simp only [tableAfter, imported]
  · have none : service? cursor = none := if_neg fun both => carries both.2
    rw [if_neg (mt marked.mp carries), none]

theorem remembering (source : String) (root : Node) :
    Remembering (ServiceInjection.check root) [("import_statement", recordImports source)] root
      (tableAfter source) (fun _ => ())
      (fun earlier => serviceActs root (Imported (bindingsIn source earlier) coreModule "inject"))
      (fun _ => []) where
  opening := by
    intro earlier cursor _ isClass
    have others : ∀ kind ∈ classKinds, kind ≠ "import_statement" := by decide
    rw [tableAfter_other (others _ isClass)]
    exact ⟨rfl, rfl, check_eq source root isClass earlier _⟩
  entering := by
    intro earlier cursor _ noClass
    have none : service? cursor = none := if_neg fun both => noClass both.1
    rw [serviceActs, none]
    by_cases isImport : cursor.node.kind = "import_statement"
    · rw [respond_named (by rw [isImport]; decide) (by rw [isImport]; rfl),
        tableAfter_import isImport]
      rfl
    · rw [respond_silent, tableAfter_other isImport]
      rw [List.forall_mem_singleton]
      exact fun same => absurd same.symm isImport
  finishing := fun _ => rfl

theorem perform_serviceActs (settings : ServiceInjection.rule.Settings) (severity : Severity)
    (file : SourceFile) (root : Node) (imported : Prop) [Decidable imported] (cursor : Cursor) :
    (ActiveRule.reporter
        ⟨ServiceInjection.rule, severity, ServiceInjection.rule.checker settings⟩ file).perform
        (serviceActs root imported cursor) =
      (serviceReports severity root imported cursor, none) := by
  rw [serviceActs, serviceReports]
  cases service? cursor with
  | none => rfl
  | some constructor =>
    by_cases known : imported
    · simp only [if_pos known]
      exact perform_note rfl constructor.span []
    · simp only [if_neg known]
      exact perform_both (perform_note rfl constructor.span []) (perform_note rfl root.span [])

theorem serviceReports_congr {one other : Prop} [Decidable one] [Decidable other] {cursor : Cursor}
    (same : (service? cursor).isSome → (one ↔ other)) (severity : Severity) (root : Node) :
    serviceReports severity root one cursor = serviceReports severity root other cursor := by
  rw [serviceReports, serviceReports]
  cases found : service? cursor with
  | none => rfl
  | some constructor =>
    rw [found] at same
    simp only [same rfl]

theorem service?_kind {cursor : Cursor} (served : (service? cursor).isSome) :
    cursor.node.kind ∈ classKinds := by
  rw [service?] at served
  split at served
  next both => exact both.1
  next => cases served

theorem bindings_above {root : Node} (first : ImportsFirst root) {earlier : List Cursor}
    {cursor : Cursor} (placed : (earlier, cursor) ∈ withEarlier root.cursors)
    (served : (service? cursor).isSome) (source : String) :
    bindingsIn source earlier = bindingsIn source root.cursors := by
  obtain ⟨later, split⟩ := mem_withEarlier.mp placed
  rw [ImportsFirst, split, List.pairwise_append, List.pairwise_cons] at first
  have noImport : cursor.node.kind ≠ "import_statement" := by
    intro isImport
    have isClass := service?_kind served
    rw [isImport] at isClass
    exact absurd isClass (by decide)
  have none : bindingsIn source (cursor :: later) = [] := by
    rw [bindingsIn, List.flatMap_eq_nil_iff, List.forall_mem_cons]
    exact ⟨if_neg noImport, fun other behind => if_neg (first.2.1.1 other behind served)⟩
  rw [split, bindingsIn_append, none, List.append_nil]

theorem imported_above_iff {source : String} {root : Node}
    (orderly : Bound (bindingsIn source root.cursors) coreModule "inject" → ImportsFirst root ∧
      ((bindingsIn source root.cursors).map ImportBinding.localName).Nodup)
    {earlier : List Cursor} {cursor : Cursor}
    (placed : (earlier, cursor) ∈ withEarlier root.cursors) (served : (service? cursor).isSome) :
    Imported (bindingsIn source earlier) coreModule "inject" ↔
      Bound (bindingsIn source root.cursors) coreModule "inject" := by
  by_cases bound : Bound (bindingsIn source root.cursors) coreModule "inject"
  · obtain ⟨first, once⟩ := orderly bound
    rw [bindings_above first placed served, imported_iff_bound once]
  · refine ⟨fun imported => ?_, fun named => absurd named bound⟩
    obtain ⟨later, split⟩ := mem_withEarlier.mp placed
    rw [split, bindingsIn_append]
    exact imported.bound.append

/-- Every service with an injecting constructor is reported, and the file with it unless an import
statement above the service has brought `inject`. If the import statements of a file that imports
`inject` stand above its services and bind no name twice, or if the file does not import it at all,
it does not matter where they stand. -/
theorem services_reported {engine : Engine} (distinct : engine.ruleIds.Nodup)
    (settings : ServiceInjection.rule.Settings) {severity : Severity}
    (activated :
      ⟨ServiceInjection.rule, severity, ServiceInjection.rule.checker settings⟩ ∈ engine.rules)
    {file : SourceFile} {root : Node} (rooted : file.root? = some root) :
    let bindings := bindingsIn file.text root.cursors
    (engine.run file).forRule ServiceInjection.rule.id =
        (withEarlier root.cursors).flatMap (fun place => serviceReports severity root
          (Imported (bindingsIn file.text place.1) coreModule "inject") place.2) ∧
      (engine.run file).faults.filter (·.rule == ServiceInjection.rule.id) = [] ∧
      ((Bound bindings coreModule "inject" →
          ImportsFirst root ∧ (bindings.map ImportBinding.localName).Nodup) →
        (engine.run file).forRule ServiceInjection.rule.id =
          root.cursors.flatMap
            (serviceReports severity root (Bound bindings coreModule "inject"))) := by
  intro bindings
  have listed : ["import_statement"].Sublist otherNames := by decide
  obtain ⟨found, clean⟩ := run_in_classes distinct activated rooted rfl
    (ClassKeeper.serviceInjection.starts ⟨file, root⟩) (remembering file.text root)
    (beside_of_listed listed)
    (fun place _ => perform_serviceActs settings severity file root _ place.2) rfl
  rw [List.append_nil] at found
  refine ⟨found, clean, fun orderly => found.trans ?_⟩
  rw [← flatMap_withEarlier root.cursors]
  apply List.flatMap_congr
  rintro ⟨earlier, cursor⟩ placed
  exact serviceReports_congr (imported_above_iff orderly placed) severity root

/-- A service whose constructor has a parameter of some type. -/
def service : Node :=
  classOf "Injectable" [InjectedParameters.constructorOf
    [InjectedParameters.parameterOf 10 "Inject" "user"]]

/-- The service below an import of what it should use. -/
def importedAbove : Node :=
  ⟨"program", 1, ⟨1, 83, by decide⟩, .empty, [importOf 16 "inject" coreModule, service]⟩

theorem service_reported_alone :
    let engine : Engine := ⟨[⟨ServiceInjection.rule, .error, ServiceInjection.rule.checker ()⟩]⟩
    let file : SourceFile := ⟨"a.ts", "", some importedAbove, false⟩
    engine.ruleIds.Nodup ∧ ImportsFirst importedAbove ∧
      (engine.run file).forRule ServiceInjection.rule.id =
        [noted ServiceInjection.rule .error ⟨7, 79, by decide⟩ "useInjectFunction" []] := by
  intro engine file
  have distinct : engine.ruleIds.Nodup := by decide
  have rooted : file.root? = some importedAbove := rfl
  have first : ImportsFirst importedAbove := by
    rw [ImportsFirst, Places.cursors_eq]
    decide
  have once : ((bindingsIn file.text importedAbove.cursors).map ImportBinding.localName).Nodup := by
    rw [Places.cursors_eq]
    decide
  obtain ⟨_, _, found⟩ := services_reported distinct () List.mem_cons_self rooted
  refine ⟨distinct, first, (found fun _ => ⟨first, once⟩).trans ?_⟩
  rw [Places.cursors_eq]
  rfl

/-- The same two statements in the other order. -/
def importedBelow : Node :=
  ⟨"program", 1, ⟨1, 83, by decide⟩, .empty, [service, importOf 16 "inject" coreModule]⟩

/-- An import below the service comes too late, so the order of the statements matters. -/
theorem import_below_unseen :
    let engine : Engine := ⟨[⟨ServiceInjection.rule, .error, ServiceInjection.rule.checker ()⟩]⟩
    let spans := fun root => ((engine.run ⟨"a.ts", "", some root, false⟩).forRule
      ServiceInjection.rule.id).map fun finding => (finding.span.start, finding.span.stop)
    Bound (bindingsIn "" importedBelow.cursors) coreModule "inject" ∧
      spans importedBelow = [(7, 79), (1, 83)] ∧ spans importedAbove = [(7, 79)] := by
  refine ⟨?_, by decide +kernel, by decide +kernel⟩
  rw [Places.cursors_eq]
  decide

end AngularLint.Proofs.InjectingServices
