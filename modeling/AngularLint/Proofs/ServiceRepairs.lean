import AngularLint.Proofs.FaultFreedom
import AngularLint.Proofs.FixAcceptance
import AngularLint.Proofs.Reactions
import AngularLint.Rules.ProvidedInRoot

/-! Repairs of services. Where a rule looks at nodes that a selector picks, and keeps nothing in
mind, a report holds what it finds at each of them. A service that is not provided in the root
injector is repaired by one edit inside its decorator, so the repairs of services that lie apart are
all carried out at once. -/

namespace AngularLint.Proofs.ServiceRepairs
open AngularLint.Angular AngularLint.Rules Descendants Dispatch EditOrder EngineTrace
open FaultFreedom FindingOrigin FixAcceptance NodeBuild NodeModel NodeSpans Outcomes Places
open Reactions ReportSoundness RuleAnswers RuleTrace Tour

/-- What is promised of each part of a tree: it fits its text, what it holds lies inside, and
arguments end with a bracket that belongs to nothing inside. -/
structure Bracketed (text : String) (tree : ParseTree) : Prop where
  fits : Fits text tree
  within : ∀ child ∈ tree.kept, tree.startByte ≤ child.startByte ∧ child.endByte ≤ tree.endByte
  arguments : tree.kind = "arguments" ∨ tree.label = some "arguments" →
    tree.startByte < tree.endByte ∧ ∀ child ∈ tree.kept, child.endByte < tree.endByte

/-- A node that holds its children, with arguments that end behind their last one. -/
structure Enclosing (node : Node) : Prop where
  children : ∀ child ∈ node.children, node.span.contains child.span = true
  arguments : ∀ arguments, node.attribute? "arguments" = some (.node arguments) →
    arguments.span.start < arguments.span.stop ∧
      ∀ child ∈ arguments.children, child.span.stop < arguments.span.stop

/-- The edit lies in the range, and leaves its last character alone. -/
structure Confined (span : Span) (edit : Edit) : Prop where
  inside : span.contains edit.span = true
  ends : edit.span.stop < span.stop

/-- No character belongs to both ranges. -/
def Separate (first second : Span) : Prop :=
  ∀ offset, ¬ ((first.start ≤ offset ∧ offset < first.stop) ∧
    second.start ≤ offset ∧ offset < second.stop)

/-- At most one finding, with a fix that is confined to the range. -/
structure Repairs (span : Span) (found : List Diagnostic) : Prop where
  once : found.length ≤ 1
  fixed : ∀ diagnostic ∈ found, ∃ fix, diagnostic.fix = some fix ∧ fix.edits ≠ [] ∧
    ∀ edit ∈ fix.edits, Confined span edit

/-- Nothing is asked for, or one repair with a message of the rule, confined to the range. -/
inductive Asks (span : Span) : List Act → Prop where
  | nothing : Asks span []
  | repair {place : Span} {id : String} {data : List (String × String)} {edit : Edit}
      (known : ProvidedInRoot.rule.messages.contains id = true) (confined : Confined span edit) :
      Asks span [.repair place id data edit]

section Selected

variable {σ : Type} (selector : Selector) (handler : Handler σ)

theorem due_selector (moment : Moment) (cursor : Cursor) :
    due (.ofList [(.selector selector, handler)]) moment cursor =
      if moment = .select ∧ selector.holds cursor.node then [⟨selector.shown, handler, cursor⟩]
      else [] := by
  have only : (OrderedMap.ofList [(EventKey.selector selector, handler)]).entries =
      [(.selector selector, handler)] := rfl
  simp only [due, only, called, calledSelector]
  split <;> simp [*]

/-- A handler of a selector is called once at each node that satisfies it, and nowhere else. -/
theorem reference_selector (root : Node) :
    reference (.ofList [(.selector selector, handler)]) root =
      (root.cursors.filter fun cursor => selector.holds cursor.node).map fun cursor =>
        ⟨selector.shown, handler, cursor⟩ := by
  have silent (moment : Moment) (other : moment ≠ .select) :
      due (.ofList [(.selector selector, handler)]) moment = fun _ => [] := by
    funext cursor
    rw [due_selector, if_neg fun both => other both.1]
  have selecting : due (.ofList [(.selector selector, handler)]) .select = fun cursor =>
      if selector.holds cursor.node then [⟨selector.shown, handler, cursor⟩] else [] := by
    funext cursor
    simp only [due_selector, true_and]
  have chosen := flatMap_chosen root.cursors (fun cursor => selector.holds cursor.node = true)
    fun cursor => [(⟨selector.shown, handler, cursor⟩ : Call σ)]
  simp only [Bool.decide_eq_true] at chosen
  rw [reference, silent .enter (by simp), silent .leave (by simp), silent .finish (by simp),
    List.append_nil, List.map_eq_flatMap, ← chosen, cursors_eq, places, flatMap_traverse, selecting]
  simp only [List.nil_append, List.flatMap_singleton, List.flatMap_nil]

end Selected

/-- Without a state each step brings what it brings on its own. -/
theorem follow_stateless {ι : Type} (step : ι → Unit → Unit × List Act) (items : List ι) :
    (follow step () items).2 = items.flatMap fun item => (step item ()).2 := by
  rw [follow_acts]
  exact flatMap_withEarlier items fun item => (step item ()).2

theorem enclosing_of_models {text : String} {tree : ParseTree} {node : Node}
    (models : Models text (.ofText text) tree node) (own : Bracketed text tree)
    (below : ∀ child ∈ tree.kept, Bracketed text child)
    (deeper : ∀ child ∈ tree.kept, ∀ inner ∈ child.kept, Bracketed text inner) :
    Enclosing node where
  children := models_within models own.fits (fun child kept => (below child kept).fits) own.within
  arguments := by
    intro arguments given
    obtain ⟨part, kept, named, partModels⟩ := models_attribute models given
    obtain ⟨begins, ends⟩ := models_offsets partModels
    have promised := below part kept
    obtain ⟨written, closed⟩ := promised.arguments named.symm
    refine ⟨offset_lt written promised.fits.start promised.fits.stop begins ends, ?_⟩
    intro child member
    obtain ⟨inner, held, innerModels⟩ := forall₂_mem partModels.children member
    exact offset_lt (closed inner held) (deeper part kept inner held).fits.stop promised.fits.stop
      (models_offsets innerModels).2 ends

section Decorator

variable {decorator : Node} (enclosing : ∀ inner, Within decorator inner → Enclosing inner)
include enclosing

theorem contains_within {inner : Node} (within : Within decorator inner) :
    decorator.span.contains inner.span = true := by
  induction within with
  | refl => exact contains_iff.mpr ⟨Nat.le_refl _, Nat.le_refl _⟩
  | tail above below ih => exact contains_trans ih ((enclosing _ above).children _ below)

/-- What the rule asks for at a decorator is confined to it. -/
theorem provision_asks {acts : List Act} (provision : Provision decorator acts) :
    Asks decorator.span acts := by
  cases provision with
  | nothing => exact .nothing
  | unopened above given early =>
    have written := ((enclosing _ above).arguments _ given).1
    omega
  | repair above given known edits _ =>
    obtain ⟨written, closed⟩ := (enclosing _ above).arguments _ given
    have within := above.trans (attribute_holds given)
    have inside := contains_iff.mp (contains_within enclosing within)
    refine .repair known ?_
    rcases edits with ⟨point, before⟩ | ⟨held, child, inner, below, starts, ends⟩
    · exact ⟨contains_iff.mpr ⟨by omega, by omega⟩, by omega⟩
    · have deep := contains_iff.mp (contains_within enclosing (within.trans (.head child below)))
      have own := fun node deeper => enclosing node ((within.tail child).trans deeper)
      have shallow := contains_iff.mp (contains_within own below)
      have shorter := closed held child
      exact ⟨contains_iff.mpr ⟨by omega, by omega⟩, by omega⟩

end Decorator

theorem perform_asks {reporter : Reporter} {span : Span} {acts : List Act}
    (messages : reporter.messages = ProvidedInRoot.rule.messages)
    (inside : span.stop ≤ reporter.sourceLength) (asks : Asks span acts) :
    ∃ found, reporter.perform acts = (found, none) ∧ Repairs span found := by
  cases asks with
  | nothing => exact ⟨[], rfl, Nat.zero_le 1, by simp⟩
  | @repair place id data edit known confined =>
    have repairable : Repairable reporter.sourceLength ⟨place, id, .ofList data, some [edit]⟩ := by
      rintro edits ⟨⟩
      refine ⟨List.cons_ne_nil _ _, List.forall_mem_singleton.mpr ?_, List.pairwise_singleton _ _⟩
      exact Nat.le_trans (Nat.le_of_lt confined.ends) inside
    obtain ⟨template, listed⟩ := Option.isSome_iff_exists.mp known
    rw [← messages] at listed
    obtain ⟨diagnostic, completed⟩ := complete_repairable listed repairable
    have fixed : diagnostic.fix = some ⟨[edit]⟩ := by
      rw [(complete_sound completed).2.fix, Option.map_some, Edit.sort, List.mergeSort_singleton]
    refine ⟨[diagnostic], ?_, Nat.le_refl 1, List.forall_mem_singleton.mpr ?_⟩
    · simp only [Reporter.perform, Act.repair, completed]
    · exact ⟨⟨[edit]⟩, fixed, List.cons_ne_nil _ _, List.forall_mem_singleton.mpr confined⟩

/-- Edits that are confined to separate ranges do not even touch. -/
theorem clear_of_separate {first second : Span} {edit foreign : Edit}
    (apart : Separate first second) (own : Confined first edit) (other : Confined second foreign) :
    Clear edit foreign := by
  have inside := contains_iff.mp own.inside
  have otherInside := contains_iff.mp other.inside
  have ends := own.ends
  have otherEnds := other.ends
  have ordered := edit.span.ordered
  have otherOrdered := foreign.span.ordered
  -- the later of the two starts would be common to both
  have behind := apart (max first.start second.start)
  rw [Clear, ← Bool.not_eq_true, overlaps_iff]
  omega

section Together

variable {decorators : List Cursor} {found : Cursor → List Diagnostic}
  (repairs : ∀ decorator ∈ decorators, Repairs decorator.node.span (found decorator))
include repairs

theorem fixes_compatible
    (apart : decorators.Pairwise fun first second => Separate first.node.span second.node.span) :
    (fixesOf (decorators.flatMap found)).Pairwise Compatible := by
  rw [fixesOf, List.pairwise_filterMap, List.pairwise_flatMap]
  constructor
  · intro decorator member
    have once := (repairs decorator member).once
    rcases shown : found decorator with _ | ⟨one, _ | ⟨other, rest⟩⟩
    · exact .nil
    · exact List.pairwise_singleton _ _
    · simp [shown] at once
  · refine apart.imp_of_mem ?_
    intro first second firstMember secondMember separate one oneFound other otherFound
      fix fixed foreign foreignFixed
    obtain ⟨_, given, _, own⟩ := (repairs first firstMember).fixed one oneFound
    obtain ⟨_, otherGiven, _, others⟩ := (repairs second secondMember).fixed other otherFound
    cases given.symm.trans fixed
    cases otherGiven.symm.trans foreignFixed
    rw [compatible_iff]
    intro edit inside foreignEdit foreignInside
    exact clear_of_separate separate (own edit inside) (others foreignEdit foreignInside)

theorem fixes_count : (fixesOf (decorators.flatMap found)).length =
    (decorators.flatMap found).length := by
  rw [fixesOf, List.filterMap_length_eq_length]
  intro diagnostic member
  obtain ⟨decorator, chosen, inside⟩ := List.mem_flatMap.mp member
  obtain ⟨fix, fixed, _⟩ := (repairs decorator chosen).fixed diagnostic inside
  rw [fixed]
  rfl

end Together

/-- The decorators that call `Injectable`, in the order of the tree. -/
def services (root : Node) : List Cursor :=
  root.cursors.filter fun cursor => ProvidedInRoot.injectable.holds cursor.node

theorem handlers_acts (source : String) (root : Node) :
    let handler : Handler Unit := .stateless fun cursor _ => ProvidedInRoot.check source cursor.node
    (follow calling () (reference (.ofList [(.selector ProvidedInRoot.injectable, handler)])
        root)).2 =
      (services root).flatMap fun decorator => ProvidedInRoot.check source decorator.node := by
  intro handler
  rw [follow_stateless, reference_selector, List.flatMap_map]
  rfl

/-- The rule brings to a report what it finds at the services, one after the other. -/
theorem repairs_reported {engine : Engine} (distinct : engine.ruleIds.Nodup) {severity : Severity}
    {settings : ProvidedInRoot.rule.Settings}
    (activated : ⟨ProvidedInRoot.rule, severity, ProvidedInRoot.rule.checker settings⟩ ∈
      engine.rules)
    {file : SourceFile} {root : Node} (rooted : file.root? = some root)
    {found : Cursor → List Diagnostic}
    (performed : ∀ decorator ∈ services root,
      (ActiveRule.reporter
        ⟨ProvidedInRoot.rule, severity, ProvidedInRoot.rule.checker settings⟩ file).perform
        (ProvidedInRoot.check file.text decorator.node) =
          (found decorator, none)) :
    (engine.run file).forRule ProvidedInRoot.rule.id = (services root).flatMap found ∧
      (engine.run file).faults.filter (·.rule == ProvidedInRoot.rule.id) = [] := by
  apply run_reacts distinct activated rooted rfl rfl
  have asked := handlers_acts file.text root
  exact (congrArg _ asked).trans (perform_each performed)

theorem place_enclosing {text : String} {tree : ParseTree} {root : Node}
    (bracketed : ∀ part ∈ reachable tree, Bracketed text part)
    (models : List.Forall₂ (fun part cursor => Models text (.ofText text) part cursor.node)
      (reachable tree) root.cursors) {cursor : Cursor} (member : cursor ∈ root.cursors) :
    (∀ inner, Within cursor.node inner → Enclosing inner) ∧
      cursor.node.span.stop ≤ text.length := by
  constructor
  · intro inner within
    obtain ⟨place, placed, rfl⟩ := within_mem_cursors member within
    obtain ⟨part, reached, partModels⟩ := forall₂_mem models placed
    have below : ∀ child ∈ part.kept, child ∈ reachable tree :=
      fun child kept => kept_mem_reachable reached kept
    refine enclosing_of_models partModels (bracketed part reached)
      (fun child kept => bracketed child (below child kept)) ?_
    intro child kept deeper held
    exact bracketed deeper (kept_mem_reachable (below child kept) held)
  · obtain ⟨part, reached, partModels⟩ := forall₂_mem models member
    exact (models_covers partModels (bracketed part reached).fits).inside

/-- On a tree that keeps its promises the rule never fails, and it reports each decorator at most
once, with a fix inside of it. Where no two of the decorators share a character, one pass carries
out all the fixes. -/
theorem service_repairs_accepted {engine : Engine} (distinct : engine.ruleIds.Nodup)
    {severity : Severity} (settings : ProvidedInRoot.rule.Settings)
    (activated : ⟨ProvidedInRoot.rule, severity, ProvidedInRoot.rule.checker settings⟩ ∈
      engine.rules)
    (grammar : Grammar) (filename text : String) (tree : ParseTree) (hasErrors : Bool)
    (read : grammar.parse? text (Text.endsWith filename ".tsx") = some ⟨tree, hasErrors⟩)
    (bracketed : ∀ part ∈ reachable tree, Bracketed text part) :
    ∃ file root, SourceFile.parse grammar filename text = .ok file ∧ file.root? = some root ∧
      let report := (engine.run file).forRule ProvidedInRoot.rule.id
      let reporter := ActiveRule.reporter
        ⟨ProvidedInRoot.rule, severity, ProvidedInRoot.rule.checker settings⟩ file
      let found (decorator : Cursor) :=
        (reporter.perform (ProvidedInRoot.check text decorator.node)).1
      report = (services root).flatMap found ∧
        (∀ decorator ∈ services root, Repairs decorator.node.span (found decorator)) ∧
        (engine.run file).faults.filter (·.rule == ProvidedInRoot.rule.id) = [] ∧
        ((services root).Pairwise (fun first second =>
            Separate first.node.span second.node.span) →
          Fix.accept (fixesOf report) = fixesOf report ∧
            (Fix.applyAccepted (fixesOf report) text).2 = report.length) := by
  obtain ⟨root, node, models⟩ := fitting_models fun part member => (bracketed part member).fits
  refine ⟨_, root, parse_of_toNode node read, rfl, ?_⟩
  intro report reporter found
  have performed : ∀ decorator ∈ services root,
      reporter.perform (ProvidedInRoot.check text decorator.node) = (found decorator, none) ∧
        Repairs decorator.node.span (found decorator) := by
    intro decorator member
    obtain ⟨enclosing, inside⟩ := place_enclosing bracketed models (List.mem_of_mem_filter member)
    have messages : reporter.messages = ProvidedInRoot.rule.messages := rfl
    obtain ⟨diagnostics, performs, repairs⟩ :=
      perform_asks messages inside (provision_asks enclosing (check_provision text _))
    have same : found decorator = diagnostics := congrArg Prod.fst performs
    exact ⟨same ▸ performs, same ▸ repairs⟩
  obtain ⟨reported, silent⟩ := repairs_reported distinct activated rfl
    fun decorator member => (performed decorator member).1
  have repairs := fun decorator member => (performed decorator member).2
  refine ⟨reported, repairs, silent, fun apart => ?_⟩
  have compatible := fixes_compatible repairs apart
  rw [← reported] at compatible
  have accepted : Fix.accept (fixesOf report) = fixesOf report :=
    acceptFrom_of_compatible [] _ compatible
  have count := fixes_count repairs
  rw [← reported] at count
  exact ⟨accepted, (congrArg List.length accepted).trans count⟩

/-- Two services, one decorator without arguments and one that names another injector. -/
def twoServices : ParseTree :=
  ⟨"program", true, none, 0, 47,
    [⟨"decorator", true, none, 0, 13,
      [⟨"call_expression", true, none, 1, 13,
        [⟨"identifier", true, some "function", 1, 11, []⟩,
          ⟨"arguments", true, some "arguments", 11, 13, []⟩]⟩]⟩,
      ⟨"decorator", true, none, 14, 47,
        [⟨"call_expression", true, none, 15, 47,
          [⟨"identifier", true, some "function", 15, 25, []⟩,
            ⟨"arguments", true, some "arguments", 25, 47,
              [⟨"object", true, none, 26, 46,
                [⟨"pair", true, none, 28, 44,
                  [⟨"property_identifier", true, some "key", 28, 38, []⟩,
                    ⟨"string", true, some "value", 40, 44, []⟩]⟩]⟩]⟩]⟩]⟩]⟩

def servicesText : String :=
  "@Injectable() @Injectable(\x7b providedIn: 'é' \x7d)"

theorem twoServices_built : ∃ root, twoServices.toNode servicesText = .ok (some root) ∧
    (services root).map (fun decorator => decorator.node.span) =
      [⟨0, 13, by decide⟩, ⟨14, 46, by decide⟩] ∧
    ((services root).flatMap fun decorator =>
      ((ActiveRule.reporter ⟨ProvidedInRoot.rule, .error, ProvidedInRoot.rule.checker ()⟩
        ⟨"a.ts", servicesText, some root, false⟩).perform
          (ProvidedInRoot.check servicesText decorator.node)).1).length = 2 := by
  rw [toNode_eq]
  refine ⟨_, rfl, ?_⟩
  rw [services, cursors_eq]
  constructor
  · rfl
  · decide +kernel

theorem two_services_repaired :
    let engine : Engine :=
      ⟨[⟨ProvidedInRoot.rule, .error, ProvidedInRoot.rule.checker ()⟩]⟩
    engine.ruleIds.Nodup ∧ (∀ part ∈ reachable twoServices, Bracketed servicesText part) ∧
      ∃ file root, SourceFile.parse ⟨fun _ _ => some ⟨twoServices, false⟩⟩ "a.ts" servicesText =
          .ok file ∧ file.root? = some root ∧
        (services root).Pairwise (fun first second =>
          Separate first.node.span second.node.span) ∧
        (Fix.applyAccepted (fixesOf ((engine.run file).forRule ProvidedInRoot.rule.id))
          servicesText).2 = 2 := by
  intro engine
  have distinct : engine.ruleIds.Nodup := by decide
  have promised : ∀ part ∈ reachable twoServices, Fits servicesText part ∧
      (∀ child ∈ part.kept, part.startByte ≤ child.startByte ∧ child.endByte ≤ part.endByte) ∧
      (part.kind = "arguments" ∨ part.label = some "arguments" →
        part.startByte < part.endByte ∧ ∀ child ∈ part.kept, child.endByte < part.endByte) := by
    decide +kernel
  have bracketed : ∀ part ∈ reachable twoServices, Bracketed servicesText part :=
    fun part member =>
      ⟨(promised part member).1, (promised part member).2.1, (promised part member).2.2⟩
  obtain ⟨file, root, parsed, rooted, reported, _, _, together⟩ :=
    service_repairs_accepted distinct () List.mem_cons_self
      ⟨fun _ _ => some ⟨twoServices, false⟩⟩ "a.ts" servicesText twoServices false rfl bracketed
  obtain ⟨built, node, spans, count⟩ := twoServices_built
  cases parsed.symm.trans (parse_of_toNode node rfl)
  cases rooted
  have apart : (services root).Pairwise fun first second =>
      Separate first.node.span second.node.span := by
    rw [← List.pairwise_map, spans, List.pairwise_pair]
    intro offset both
    dsimp only at both
    omega
  exact ⟨distinct, bracketed, _, root, parsed, rfl, apart,
    (together apart).2.trans ((congrArg List.length reported).trans count)⟩

end AngularLint.Proofs.ServiceRepairs
