import AngularLint.Proofs.Decorations
import AngularLint.Proofs.Responses

/-! Which parameters of a constructor are reported as injected, and when the constructor is. The two
questions are answered by different tests, and a parameter whose decorators do not include
`@Inject()` falls between them: it is passed over itself, with or without a type, and yet its
constructor is reported. -/

namespace AngularLint.Proofs.InjectedParameters
open AngularLint.Angular AngularLint.Rules ClassFrames ClassWalk Decorations EngineTrace
open Reactions Responses

/-- A constructor that stands directly in a class with one of Angular's decorators. -/
def AngularConstructor (cursor : Cursor) : Prop :=
  cursor.node.kind = "method_definition" ∧ methodName? cursor.node = some "constructor" ∧
    InClass (fun owner => ∃ name ∈ angularNames, Carries owner name) cursor

instance : DecidablePred AngularConstructor := fun _ =>
  inferInstanceAs (Decidable (_ ∧ _ ∧ _))

/-- A parameter that declares a property, calls `@Inject()` or has a type. -/
def Injected (parameter : Node) : Prop :=
  isParameterProperty parameter = true ∨ Called (parameter.attributeNodes "decorator") "Inject" ∨
    hasTypeAnnotation parameter = true

instance : DecidablePred Injected := fun _ =>
  inferInstanceAs (Decidable (_ ∨ _ ∨ _))

/-- A parameter that declares no property and has decorators, but not `@Inject()`. -/
def Overlooked (parameter : Node) : Prop :=
  isParameterProperty parameter = false ∧ parameter.attributeNodes "decorator" ≠ [] ∧
    ¬ Called (parameter.attributeNodes "decorator") "Inject"

instance : DecidablePred Overlooked := fun _ =>
  inferInstanceAs (Decidable (_ ∧ _ ∧ _))

/-- The parameter is reported itself, if it has a plain name. -/
def Named (parameter : Node) : Prop :=
  Injected parameter ∧ ¬ Overlooked parameter

instance : DecidablePred Named := fun _ =>
  inferInstanceAs (Decidable (_ ∧ _))

/-- The parameter has its constructor reported. -/
def Noticed (parameter : Node) : Prop :=
  Injected parameter ∨ Overlooked parameter

instance : DecidablePred Noticed := fun _ =>
  inferInstanceAs (Decidable (_ ∨ _))

theorem injectedName?_eq (parameter : Node) :
    ConstructorInjection.injectedName? parameter =
      if Named parameter then parameterName? parameter else none := by
  simp only [ConstructorInjection.injectedName?, Named, Injected, Overlooked]
  by_cases property : isParameterProperty parameter = true
  · simp [property]
  · rw [if_neg property]
    split
    next none => simp [property, none, Called]
    next decorated =>
      have some : parameter.attributeNodes "decorator" ≠ [] := decorated
      simp only [any_called]
      by_cases called : Called (parameter.attributeNodes "decorator") "Inject" <;>
        simp [property, called, some]

theorem looksInjected_iff (parameter : Node) :
    ConstructorInjection.looksInjected parameter = true ↔ Noticed parameter := by
  rw [ConstructorInjection.looksInjected, Noticed, Injected, Overlooked]
  by_cases property : isParameterProperty parameter = true
  · simp [property]
  · cases parameter.attributeNodes "decorator" with
    | nil => simp [property, Called]
    | cons first rest =>
      by_cases called : Called (first :: rest) "Inject" <;> simp [property, called]

section Reports

variable (severity : Severity) (named noticed : Node → Prop) [DecidablePred named]
  [DecidablePred noticed]

/-- A finding for every parameter of one sort that has a plain name, in order. -/
def parameterReports (parameters : List Node) : List Diagnostic :=
  (parameters.filter fun parameter => named parameter).flatMap fun parameter =>
    ((parameterName? parameter).map fun name =>
      noted ConstructorInjection.rule severity parameter.span "useInjectFunction"
        [("serviceName", name)]).toList

/-- The findings in a constructor, and the one for the constructor if it has a parameter of another
sort. -/
def constructorReports (method : Node) : List Diagnostic :=
  parameterReports severity named (methodParameters method) ++
    if ∃ parameter ∈ methodParameters method, noticed parameter then
      [noted ConstructorInjection.rule severity ((method.childAt? ["name"]).getD method).span
        "avoidConstructor" []]
    else []

end Reports

section Acts

variable (settings : ConstructorInjection.rule.Settings) (severity : Severity) (file : SourceFile)

theorem perform_checkParameters (parameters : List Node) :
    (ActiveRule.reporter
        ⟨ConstructorInjection.rule, severity, ConstructorInjection.rule.checker settings⟩
        file).perform (ConstructorInjection.checkParameters parameters) =
      (parameterReports severity Named parameters, none) := by
  rw [ConstructorInjection.checkParameters, List.filterMap_eq_flatMap_toList, parameterReports,
    ← flatMap_chosen]
  apply perform_each
  intro parameter _
  rw [injectedName?_eq]
  split
  · cases parameterName? parameter with
    | none => rfl
    | some name => exact perform_note rfl parameter.span [("serviceName", name)]
  · rfl

theorem perform_checkConstructor (method : Node) :
    (ActiveRule.reporter
        ⟨ConstructorInjection.rule, severity, ConstructorInjection.rule.checker settings⟩
        file).perform (ConstructorInjection.checkConstructor method) =
      (constructorReports severity Named Noticed method, none) := by
  have noticed : (methodParameters method).any ConstructorInjection.looksInjected = true ↔
      ∃ parameter ∈ methodParameters method, Noticed parameter := by
    simp only [List.any_eq_true, looksInjected_iff]
  apply perform_both (perform_checkParameters settings severity file _)
  simp only [noticed]
  split
  · exact perform_note rfl _ []
  · rfl

end Acts

def constructorActs (cursor : Cursor) : List Act :=
  if AngularConstructor cursor then ConstructorInjection.checkConstructor cursor.node else []

theorem check_eq {cursor : Cursor} (isMethod : cursor.node.kind = "method_definition")
    (imports : ImportTable) :
    ConstructorInjection.check cursor ⟨imports, frames cursor.ancestors, ()⟩ =
      constructorActs cursor := by
  have same : (methodName? cursor.node == some "constructor" &&
      ((enclosingClass? cursor).isSome && ClassStack.inside (frames cursor.ancestors) angularMark)) =
        true ↔ AngularConstructor cursor := by
    rw [Bool.and_eq_true, inClass_iff, beq_iff_eq]
    simp only [angular_iff, AngularConstructor, isMethod, true_and]
  rw [ConstructorInjection.check, constructorActs, Bool.and_assoc]
  simp only [same]

theorem remembering (root : Node) :
    Remembering (fun _ _ _ => []) [("method_definition", .stateless ConstructorInjection.check)] root
      (fun _ => .empty) (fun _ => ()) (fun _ => constructorActs) (fun _ => []) where
  opening := by
    intro earlier cursor _ isClass
    have noMethod : ¬ AngularConstructor cursor := by
      intro constructor
      rw [constructor.1] at isClass
      exact absurd isClass (by decide)
    exact ⟨rfl, rfl, (if_neg noMethod).symm⟩
  entering := by
    intro earlier cursor _ _
    by_cases isMethod : cursor.node.kind = "method_definition"
    · rw [respond_named (by rw [isMethod]; decide) (by rw [isMethod]; rfl)]
      exact congrArg (Prod.mk _) (check_eq isMethod .empty)
    · have noMethod : ¬ AngularConstructor cursor := fun constructor => isMethod constructor.1
      rw [respond_silent, constructorActs, if_neg noMethod]
      rw [List.forall_mem_singleton]
      exact fun same => absurd same.symm isMethod
  finishing := fun _ => rfl

theorem perform_constructorActs (settings : ConstructorInjection.rule.Settings)
    (severity : Severity) (file : SourceFile) (cursor : Cursor) :
    (ActiveRule.reporter
        ⟨ConstructorInjection.rule, severity, ConstructorInjection.rule.checker settings⟩
        file).perform (constructorActs cursor) =
      (if AngularConstructor cursor then constructorReports severity Named Noticed cursor.node
      else [], none) := by
  rw [constructorActs]
  split
  · exact perform_checkConstructor settings severity file cursor.node
  · rfl

/-- If no parameter is overlooked, the two tests agree on what is injected. -/
theorem constructorReports_plain {method : Node}
    (plain : ∀ parameter ∈ methodParameters method, ¬ Overlooked parameter) (severity : Severity) :
    constructorReports severity Named Noticed method =
      constructorReports severity Injected Injected method := by
  have named : (methodParameters method).filter (fun parameter => decide (Named parameter)) =
      (methodParameters method).filter fun parameter => decide (Injected parameter) := by
    apply List.filter_congr
    intro parameter member
    simp only [Named, plain parameter member, not_false_iff, and_true]
  have noticed : (∃ parameter ∈ methodParameters method, Noticed parameter) ↔
      ∃ parameter ∈ methodParameters method, Injected parameter := by
    constructor
    · rintro ⟨parameter, member, injected | overlooked⟩
      · exact ⟨parameter, member, injected⟩
      · exact absurd overlooked (plain parameter member)
    · rintro ⟨parameter, member, injected⟩
      exact ⟨parameter, member, .inl injected⟩
  simp only [constructorReports, parameterReports, named, noticed]

/-- In every constructor of an Angular class the injected parameters are reported that are not
overlooked, in order, and behind them the constructor if it has an injected or an overlooked one.
So if none is overlooked, it is the injected parameters that are reported, and their constructor;
and nothing else ever is. -/
theorem injected_parameters_reported {engine : Engine} (distinct : engine.ruleIds.Nodup)
    (settings : ConstructorInjection.rule.Settings) {severity : Severity}
    (activated : ⟨ConstructorInjection.rule, severity,
      ConstructorInjection.rule.checker settings⟩ ∈ engine.rules)
    {file : SourceFile} {root : Node} (rooted : file.root? = some root) :
    let constructors := root.cursors.filter fun cursor => AngularConstructor cursor
    (engine.run file).forRule ConstructorInjection.rule.id =
        constructors.flatMap (fun cursor =>
          constructorReports severity Named Noticed cursor.node) ∧
      (engine.run file).faults.filter (·.rule == ConstructorInjection.rule.id) = [] ∧
      ((∀ cursor ∈ constructors, ∀ parameter ∈ methodParameters cursor.node,
          ¬ Overlooked parameter) →
        (engine.run file).forRule ConstructorInjection.rule.id =
          constructors.flatMap fun cursor =>
            constructorReports severity Injected Injected cursor.node) := by
  intro constructors
  have listed : ["method_definition"].Sublist otherNames := by decide
  obtain ⟨found, clean⟩ := run_in_classes distinct activated rooted rfl
    (ClassKeeper.constructorInjection.starts ⟨file, root⟩) (remembering root)
    (beside_of_listed listed)
    (fun place _ => perform_constructorActs settings severity file place.2) rfl
  have places := flatMap_withEarlier root.cursors fun cursor => if AngularConstructor cursor then
    constructorReports severity Named Noticed cursor.node else []
  rw [places, flatMap_chosen, List.append_nil] at found
  refine ⟨found, clean, fun plain => found.trans ?_⟩
  apply List.flatMap_congr
  intro cursor member
  exact constructorReports_plain (plain cursor member) severity

/-- A parameter with a plain name, a type and a decorator. -/
def parameterOf (number : Nat) (decorator name : String) : Node :=
  let span : Span := ⟨number, number + 5, by omega⟩
  ⟨"required_parameter", number, span,
    ⟨[("decorator", .child 0), ("pattern", .child 1), ("type", .child 2)]⟩,
    [callOf (number + 1) decorator, ⟨"identifier", number + 4, span, ⟨[("text", .text name)]⟩, []⟩,
      ⟨"type_annotation", number + 5, span, .empty, []⟩]⟩

def constructorOf (parameters : List Node) : Node :=
  ⟨"method_definition", 7, ⟨7, 79, by decide⟩, ⟨[("name", .child 0), ("parameters", .child 1)]⟩,
    [⟨"property_identifier", 8, ⟨7, 18, by decide⟩, ⟨[("text", .text "constructor")]⟩, []⟩,
      ⟨"formal_parameters", 9, ⟨18, 79, by decide⟩, .empty, parameters⟩]⟩

/-- A component with two parameters, of which the second is overlooked. -/
def injectingComponent : Node :=
  ⟨"program", 1, ⟨1, 81, by decide⟩, .empty,
    [classOf "Component" [constructorOf [parameterOf 10 "Inject" "user", parameterOf 16 "Self" "log"]]]⟩

theorem injecting_component_reported :
    let engine : Engine :=
      ⟨[⟨ConstructorInjection.rule, .warn, ConstructorInjection.rule.checker ()⟩]⟩
    let file : SourceFile := ⟨"a.ts", "", some injectingComponent, false⟩
    engine.ruleIds.Nodup ∧
      (engine.run file).forRule ConstructorInjection.rule.id =
        [noted ConstructorInjection.rule .warn (parameterOf 10 "Inject" "user").span
            "useInjectFunction" [("serviceName", "user")],
          noted ConstructorInjection.rule .warn ⟨7, 18, by decide⟩ "avoidConstructor" []] := by
  intro engine file
  have distinct : engine.ruleIds.Nodup := by decide
  have rooted : file.root? = some injectingComponent := rfl
  obtain ⟨found, _⟩ := injected_parameters_reported distinct () List.mem_cons_self rooted
  refine ⟨distinct, found.trans ?_⟩
  rw [Places.cursors_eq]
  rfl

/-- A service with one parameter, which has a type and the decorator `@Optional()`. -/
def optionalService : Node :=
  ⟨"program", 1, ⟨1, 82, by decide⟩, .empty,
    [classOf "Injectable" [constructorOf [parameterOf 10 "Optional" "user"]]]⟩

/-- The parameter of a type is injected but not reported, and its constructor is reported alone. -/
theorem optional_parameter_overlooked :
    let engine : Engine :=
      ⟨[⟨ConstructorInjection.rule, .warn, ConstructorInjection.rule.checker ()⟩]⟩
    Injected (parameterOf 10 "Optional" "user") ∧
      ((engine.run ⟨"a.ts", "", some optionalService, false⟩).forRule
        ConstructorInjection.rule.id).map Diagnostic.messageId = ["avoidConstructor"] ∧
      ((optionalService.cursors.filter fun cursor => AngularConstructor cursor).flatMap
        fun cursor => constructorReports .warn Injected Injected cursor.node).map
          Diagnostic.messageId = ["useInjectFunction", "avoidConstructor"] := by
  refine ⟨by decide, by decide +kernel, ?_⟩
  rw [Places.cursors_eq]
  rfl

end AngularLint.Proofs.InjectedParameters
