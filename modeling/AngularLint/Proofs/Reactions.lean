import AngularLint.Proofs.ReportSoundness
import Mathlib.Data.List.Induction

/-! A rule as a machine that reacts to one thing after another. As long as it does not fail, a report
holds what it asks for at each step, and its state at a step depends on nothing but the steps before.
So whatever a rule remembers can be said in terms of the tree: of the nodes that come earlier. -/

namespace AngularLint.Proofs.Reactions
open Dispatch EngineTrace FindingOrigin NonInterference ReportSoundness RuleTrace

universe u v

variable {σ : Type} {ι : Type u} {β : Type v}

def withEarlierFrom (earlier : List ι) : List ι → List (List ι × ι)
  | [] => []
  | item :: rest => (earlier, item) :: withEarlierFrom (earlier ++ [item]) rest

/-- Each item of a list, together with all those that come earlier. -/
def withEarlier (items : List ι) : List (List ι × ι) :=
  withEarlierFrom [] items

theorem withEarlierFrom_append (earlier first second : List ι) :
    withEarlierFrom earlier (first ++ second) =
      withEarlierFrom earlier first ++ withEarlierFrom (earlier ++ first) second := by
  induction first generalizing earlier with
  | nil => rw [List.append_nil]; rfl
  | cons item rest ih =>
    rw [List.cons_append, withEarlierFrom, withEarlierFrom, ih, List.append_assoc]
    rfl

theorem withEarlier_snoc (items : List ι) (item : ι) :
    withEarlier (items ++ [item]) = withEarlier items ++ [(items, item)] :=
  withEarlierFrom_append [] items [item]

theorem mem_withEarlierFrom {before items earlier : List ι} {item : ι} :
    (earlier, item) ∈ withEarlierFrom before items ↔
      ∃ passed later, items = passed ++ item :: later ∧ earlier = before ++ passed := by
  induction items generalizing before with
  | nil => simp [withEarlierFrom]
  | cons first rest ih =>
    rw [withEarlierFrom, List.mem_cons, ih]
    constructor
    · rintro (here | ⟨passed, later, rfl, rfl⟩)
      · cases here
        exact ⟨[], rest, rfl, (List.append_nil _).symm⟩
      · exact ⟨first :: passed, later, rfl, by simp⟩
    · rintro ⟨passed, later, split, rfl⟩
      cases passed with
      | nil =>
        cases split
        exact .inl (by rw [List.append_nil])
      | cons head passed =>
        cases split
        exact .inr ⟨passed, later, rfl, by simp⟩

theorem mem_withEarlier {items earlier : List ι} {item : ι} :
    (earlier, item) ∈ withEarlier items ↔ ∃ later, items = earlier ++ item :: later := by
  rw [withEarlier, mem_withEarlierFrom]
  constructor
  · rintro ⟨passed, later, split, rfl⟩
    exact ⟨later, split⟩
  · rintro ⟨later, split⟩
    exact ⟨earlier, later, split, rfl⟩

theorem flatMap_withEarlier {κ : Type v} (items : List ι) (result : ι → List κ) :
    (withEarlier items).flatMap (fun place => result place.2) = items.flatMap result := by
  induction items using List.reverseRecOn with
  | nil => rfl
  | append_singleton items item ih =>
    rw [withEarlier_snoc, List.flatMap_append, List.flatMap_append, ih, List.flatMap_singleton,
      List.flatMap_singleton]

theorem flatMap_chosen {κ : Type v} (items : List ι) (chosen : ι → Prop) [DecidablePred chosen]
    (result : ι → List κ) :
    items.flatMap (fun item => if chosen item then result item else []) =
      (items.filter fun item => chosen item).flatMap result := by
  induction items with
  | nil => rfl
  | cons item rest ih =>
    rw [List.flatMap_cons, ih]
    by_cases here : chosen item <;> simp [here]

/-- What a machine comes to in a number of steps, and all that it asks for on the way. -/
def follow (step : ι → σ → σ × List Act) : σ → List ι → σ × List Act
  | state, [] => (state, [])
  | state, item :: rest =>
    let answer := step item state
    let later := follow step answer.1 rest
    (later.1, answer.2 ++ later.2)

section Follow

variable (step : ι → σ → σ × List Act) (state : σ)

theorem follow_append (first second : List ι) :
    follow step state (first ++ second) =
      ((follow step (follow step state first).1 second).1,
        (follow step state first).2 ++ (follow step (follow step state first).1 second).2) := by
  induction first generalizing state with
  | nil => rfl
  | cons item rest ih => simp only [List.cons_append, follow, ih, List.append_assoc]

theorem follow_snoc (items : List ι) (item : ι) :
    follow step state (items ++ [item]) =
      ((step item (follow step state items).1).1,
        (follow step state items).2 ++ (step item (follow step state items).1).2) := by
  rw [follow_append]
  simp only [follow, List.append_nil]

theorem follow_flatMap {κ : Type v} (parts : κ → List ι) (items : List κ) :
    follow step state (items.flatMap parts) =
      follow (fun item state => follow step state (parts item)) state items := by
  induction items generalizing state with
  | nil => rfl
  | cons item rest ih => rw [List.flatMap_cons, follow_append, ih]; rfl

/-- At each step a machine answers from the state to which the steps before have brought it. -/
theorem follow_acts (items : List ι) :
    (follow step state items).2 =
      (withEarlier items).flatMap fun place =>
        (step place.2 (follow step state place.1).1).2 := by
  induction items using List.reverseRecOn with
  | nil => rfl
  | append_singleton passed item ih =>
    rw [follow_snoc, withEarlier_snoc, List.flatMap_append, ih, List.flatMap_singleton]

end Follow

/-- The calls of a rule as steps of a machine. -/
def calling (call : Call σ) (state : σ) : σ × List Act :=
  call.handler call.cursor state

theorem perform_failed {reporter : Reporter} {before : List Act} {fault : Fault}
    (failed : (reporter.perform before).2 = some fault) (acts : List Act) :
    reporter.perform (before ++ acts) = reporter.perform before := by
  induction before with
  | nil => cases failed
  | cons act rest ih =>
    cases act with
    | fail fault => rfl
    | report finding =>
      rw [List.cons_append]
      simp only [Reporter.perform] at failed ⊢
      cases completed : reporter.complete finding with
      | error fault => rfl
      | ok diagnostic =>
        rw [completed] at failed
        simp only [ih failed]

/-- The acts of a machine can all be carried out, so each of its calls passes. -/
theorem cut_clean {reporter : Reporter} {state : σ} {calls : List (Call σ)}
    {diagnostics : List Diagnostic}
    (clean : reporter.perform (follow calling state calls).2 = (diagnostics, none)) :
    (cut reporter state calls).flatMap (·.echo.diagnostics) = diagnostics ∧
      (cut reporter state calls).flatMap (·.echo.faults) = [] := by
  induction calls generalizing state diagnostics with
  | nil =>
    cases clean
    exact ⟨rfl, rfl⟩
  | cons call rest ih =>
    rcases performed : reporter.perform (call.handler call.cursor state).2 with ⟨first, fault⟩
    simp only [follow, calling] at clean
    cases fault with
    | some fault =>
      rw [perform_failed (congrArg Prod.snd performed), performed] at clean
      cases clean
    | none =>
      rw [perform_append (congrArg Prod.snd performed), performed] at clean
      obtain ⟨whole, passes⟩ := Prod.mk.inj clean
      obtain ⟨found, passed⟩ := ih (Prod.ext rfl passes)
      rw [cut_passed rest performed, List.flatMap_cons, List.flatMap_cons, found, passed]
      exact ⟨whole, rfl⟩

/-- A rule that starts without acts brings to a report what its machine asks for. -/
theorem run_reacts {engine : Engine} (distinct : engine.ruleIds.Nodup) {active : ActiveRule}
    (activated : active ∈ engine.rules) {file : SourceFile} {root : Node}
    (rooted : file.root? = some root)
    (idle : (active.checker.start ⟨file, root⟩).acts = [])
    (sound : tableFault? (active.checker.start ⟨file, root⟩).handlers = none)
    {diagnostics : List Diagnostic}
    (clean : (active.reporter file).perform
      (follow calling (active.checker.start ⟨file, root⟩).state
        (reference (active.checker.start ⟨file, root⟩).handlers root)).2 = (diagnostics, none)) :
    (engine.run file).forRule active.rule.id = diagnostics ∧
      (engine.run file).faults.filter (·.rule == active.rule.id) = [] := by
  have prepared : setupFault? (active.reporter file)
      (active.checker.start ⟨file, root⟩) = none := by
    rw [setupFault?, idle, sound]
    rfl
  obtain ⟨found, passed⟩ := cut_clean clean
  obtain ⟨findings, faults⟩ := run_own engine distinct rooted activated
  rw [findings, faults]
  simp only [brought, opening, prepared, trace, idle, Reporter.perform, joined, Echo.append,
    List.flatMap_map, Option.toList_none, List.map_nil, List.nil_append]
  exact ⟨found, passed⟩

/-- A finding without a fix, as it stands in a report. -/
def noted (rule : Rule) (severity : Severity) (span : Span) (messageId : String)
    (data : List (String × String)) : Diagnostic where
  rule := rule.id
  messageId := messageId
  message := fillTemplate ((rule.messages.get? messageId).getD "") (.ofList data)
  span := span
  severity := severity
  data := .ofList data
  fix := none

section Perform

variable {active : ActiveRule} {file : SourceFile}

theorem perform_note {messageId : String}
    (known : active.rule.messages.contains messageId = true) (span : Span)
    (data : List (String × String)) :
    (active.reporter file).perform [.note span messageId data] =
      ([noted active.rule active.severity span messageId data], none) := by
  obtain ⟨template, found⟩ := Option.isSome_iff_exists.mp known
  have listed : (active.reporter file).messages.get? messageId = some template := found
  simp only [Reporter.perform, Act.note, Reporter.complete, listed, Reporter.fixOf, noted, found]
  rfl

variable {reporter : Reporter}

theorem perform_both {first second : List Act} {before later : List Diagnostic}
    (one : reporter.perform first = (before, none))
    (two : reporter.perform second = (later, none)) :
    reporter.perform (first ++ second) = (before ++ later, none) := by
  rw [perform_append (congrArg Prod.snd one), one, two]

theorem perform_each {items : List ι} {acts : ι → List Act} {found : ι → List Diagnostic}
    (each : ∀ item ∈ items, reporter.perform (acts item) = (found item, none)) :
    reporter.perform (items.flatMap acts) = (items.flatMap found, none) := by
  induction items with
  | nil => rfl
  | cons item rest ih =>
    obtain ⟨here, later⟩ := List.forall_mem_cons.mp each
    exact perform_both here (ih later)

end Perform

end AngularLint.Proofs.Reactions
