import AngularLint.Proofs.NodeAttributes
import AngularLint.Proofs.NodeSpans
import AngularLint.Proofs.ReportSoundness
import AngularLint.Proofs.RuleAnswers

/-! No rule of the registry fails on a tree that a grammar can deliver. All that is needed of the
tree is that it fits its text, that arguments take up some of it, and that a member expression has
one receiver; kinds, labels and missing or repeated parts are as they may be. -/

namespace AngularLint.Proofs.FaultFreedom
open AngularLint.Angular ClassFrames ClassWalk Descendants Dispatch EngineTrace FindingOrigin
open NodeAttributes NodeBuild NodeModel NodeSpans Outcomes Places ReportSoundness RuleActs
open RuleAnswers RuleTrace

variable {σ α : Type} {text : String} {tree : ParseTree} {reporter : Reporter}

/-- What a grammar promises of each part of a tree. -/
structure Grammatical (text : String) (tree : ParseTree) : Prop where
  fits : Fits text tree
  arguments : tree.kind = "arguments" ∨ tree.label = some "arguments" →
    tree.startByte < tree.endByte
  receiver : tree.kind = "member_expression" →
    (tree.kept.filter (labelledAs "object")).length ≤ 1

/-- A node that no rule fails on, in a source of some length. -/
structure Regular (length : Nat) (node : Node) : Prop where
  inside : node.span.stop ≤ length
  arguments : ∀ inner, node.attribute? "arguments" = some (.node inner) → 0 < inner.span.stop
  receiver : node.kind = "member_expression" →
    ∀ nodes, node.attribute? "object" ≠ some (.nodes nodes)

theorem models_covers {node : Node} (models : Models text (.ofText text) tree node)
    (fits : Fits text tree) : Covers text tree node.span := by
  cases models with
  | intro _ span _ _ => exact fits.covers span

/-- A child under an attribute stands for a tree with that label or of that kind. -/
theorem models_attribute {node inner : Node} {name : String}
    (models : Models text (.ofText text) tree node)
    (given : node.attribute? name = some (.node inner)) :
    ∃ child ∈ tree.kept, (child.label = some name ∨ child.kind = name) ∧
      Models text (.ofText text) child inner := by
  cases models with
  | intro _ _ attributes children =>
    obtain ⟨held, found, valued⟩ := Option.bind_eq_some_iff.mp given
    rw [attributes] at found
    cases held with
    | child position =>
      obtain ⟨there, below, same⟩ := Option.map_eq_some_iff.mp valued
      cases same
      obtain ⟨child, kept, named⟩ := child_of_attribute found
      exact ⟨child, List.mem_of_getElem? kept, named, forall₂_getElem? children kept below⟩
    | _ => cases valued

theorem regular_of_models {node : Node} (models : Models text (.ofText text) tree node)
    (own : Grammatical text tree) (below : ∀ child ∈ tree.kept, Grammatical text child) :
    Regular text.length node where
  inside := (models_covers models own.fits).inside
  arguments := by
    intro inner given
    obtain ⟨child, kept, named, childModels⟩ := models_attribute models given
    have childOwn := below child kept
    exact (models_covers childModels childOwn.fits).positive (childOwn.arguments named.symm)
      childOwn.fits.inside
  receiver := by
    intro selects nodes given
    cases models with
    | intro kind _ attributes _ =>
      obtain ⟨held, found, valued⟩ := Option.bind_eq_some_iff.mp given
      rw [attributes] at found
      cases held with
      | children positions =>
        have several := children_of_attribute found
        have single := own.receiver (kind.symm.trans selects)
        omega
      | child position =>
        obtain ⟨_, _, same⟩ := Option.map_eq_some_iff.mp valued
        cases same
      | _ => cases valued

/-- An act that is a finding which the reporter can complete. -/
def Carried (reporter : Reporter) (act : Act) : Prop :=
  ∃ finding diagnostic, act = .report finding ∧ reporter.complete finding = .ok diagnostic

theorem finding_carried {finding : Finding}
    (known : reporter.messages.contains finding.messageId = true)
    (repairable : Repairable reporter.sourceLength finding) :
    Carried reporter (.report finding) := by
  obtain ⟨template, found⟩ := Option.isSome_iff_exists.mp known
  obtain ⟨diagnostic, completed⟩ := complete_repairable found repairable
  exact ⟨finding, diagnostic, rfl, completed⟩

theorem answer_carried {node : Node} {act : Act}
    (regular : ∀ inner, Within node inner → Regular reporter.sourceLength inner)
    (answer : Answer reporter.messages reporter.sourceLength node act) : Carried reporter act := by
  cases answer with
  | note known unedited =>
    apply finding_carried known
    intro edits given
    rw [unedited] at given
    cases given
  | repair known edited inside _ =>
    apply finding_carried known
    intro edits given
    rw [edited] at given
    cases given
    refine ⟨List.cons_ne_nil _ _, List.forall_mem_singleton.mpr ?_, List.pairwise_singleton _ _⟩
    rcases inside with short | ⟨inner, within, shorter⟩
    · exact short
    · exact Nat.le_trans shorter (regular inner within).inside
  | repeated within selects failed =>
    rw [receiver?] at failed
    split at failed
    next => cases failed
    next nodes given => exact absurd given ((regular _ within).receiver selects nodes)
    next => cases failed
  | unopened within given early =>
    have positive := (regular _ within).arguments _ given
    omega

theorem perform_carried {acts : List Act} (carried : ∀ act ∈ acts, Carried reporter act) :
    (reporter.perform acts).2 = none := by
  induction acts with
  | nil => rfl
  | cons act rest ih =>
    obtain ⟨⟨finding, diagnostic, rfl, completed⟩, later⟩ := List.forall_mem_cons.mp carried
    simp only [Reporter.perform, completed]
    exact ih later

/-- Calls that are made one after another without a failure, from one state to another. -/
inductive Passes (reporter : Reporter) : σ → List (Call σ) → σ → Prop where
  | nil (state : σ) : Passes reporter state [] state
  | cons {state last : σ} {call : Call σ} {rest : List (Call σ)}
      (performed : (reporter.perform (call.handler call.cursor state).2).2 = none)
      (later : Passes reporter (call.handler call.cursor state).1 rest last) :
      Passes reporter state (call :: rest) last

theorem Passes.append {state middle last : σ} {first second : List (Call σ)}
    (before : Passes reporter state first middle) (later : Passes reporter middle second last) :
    Passes reporter state (first ++ second) last := by
  induction before with
  | nil => exact later
  | cons performed _ ih => exact .cons performed (ih later)

theorem Passes.silent {state last : σ} {calls : List (Call σ)}
    (passes : Passes reporter state calls last) :
    ∀ made ∈ cut reporter state calls, made.echo.faults = [] := by
  induction passes with
  | nil => exact fun made none => by cases none
  | cons performed _ ih =>
    rw [cut_passed _ (Prod.ext rfl performed), List.forall_mem_cons]
    exact ⟨rfl, ih⟩

/-- Calls of handlers that answer well pass in any state, and keep what each of them keeps. -/
theorem passes_of_carried {calls : List (Call σ)} {keeps : σ → Prop}
    (carried : ∀ call ∈ calls, ∀ state, ∀ act ∈ (call.handler call.cursor state).2,
      Carried reporter act)
    (kept : ∀ call ∈ calls, ∀ state, keeps state → keeps (call.handler call.cursor state).1)
    {state : σ} (held : keeps state) : ∃ last, Passes reporter state calls last ∧ keeps last := by
  induction calls generalizing state with
  | nil => exact ⟨state, .nil state, held⟩
  | cons call rest ih =>
    obtain ⟨first, others⟩ := List.forall_mem_cons.mp carried
    obtain ⟨keep, keepOthers⟩ := List.forall_mem_cons.mp kept
    obtain ⟨last, later, still⟩ := ih others keepOthers (keep state held)
    exact ⟨last, .cons (perform_carried (first state)) later, still⟩

theorem turn_cursor {root : Node} {turn : Moment × Cursor} (member : turn ∈ turns root) :
    turn.2 ∈ root.cursors := by
  rw [turns_eq] at member
  rw [cursors_eq]
  rcases List.mem_append.mp member with toured | last
  · obtain ⟨cursor, inside, entered | left⟩ := mem_traverse toured
    · rcases List.mem_cons.mp entered with rfl | selected
      · exact inside
      · rw [List.mem_singleton.mp selected]
        exact inside
    · rw [List.mem_singleton.mp left]
      exact inside
  · rw [List.mem_singleton.mp last]
    exact self_mem_places [] root

section Rule

variable {holds : Cursor → Act → Prop} {root : Node}
  (carried : ∀ cursor ∈ root.cursors, ∀ act, holds cursor act → Carried reporter act)
include carried

theorem passes_each {table : HandlerTable σ}
    (answers : ∀ entry ∈ table.entries, Answers holds entry.2) (state : σ) :
    ∃ last, Passes reporter state (reference table root) last := by
  have due : ∀ call ∈ reference table root, ∀ state,
      ∀ act ∈ (call.handler call.cursor state).2, Carried reporter act := by
    intro call member state act answered
    rw [reference_eq] at member
    obtain ⟨turn, turned, there⟩ := List.mem_flatMap.mp member
    obtain ⟨here, key, registered⟩ := due_registered there
    rw [here] at answered
    exact carried _ (turn_cursor turned) act (answers _ registered _ state act answered)
  have passes : ∃ last, Passes reporter state (reference table root) last ∧ True :=
    passes_of_carried due (fun _ _ _ _ => trivial) trivial
  exact passes.imp fun _ passed => passed.1

section Tracking

variable {onEnter : Cursor → ClassFrame → Memory α → List Act}
  {others : List (String × Handler (Memory α))} {names : List String}

/-- A moment at which the right classes are open passes, and leaves the right ones open. -/
theorem passes_turn {table : HandlerTable (Memory α)} (tracks : Tracks onEnter table)
    (entered : ∀ cursor frame memory, ∀ act ∈ onEnter cursor frame memory, holds cursor act)
    (answers : ∀ moment cursor,
      (cursor.node.kind ∈ classKinds → moment ≠ .enter ∧ moment ≠ .leave) →
        ∀ call ∈ due table moment cursor, Answers holds call.handler)
    {turn : Moment × Cursor} (turned : turn ∈ turns root) {memory : Memory α}
    (classes : memory.classes = openAt turn) :
    ∃ next : Memory α, Passes reporter memory (due table turn.1 turn.2) next ∧
      next.classes = shift memory.classes turn := by
  obtain ⟨moment, cursor⟩ := turn
  have inside : cursor ∈ root.cursors := turn_cursor turned
  by_cases still : cursor.node.kind ∈ classKinds → moment ≠ .enter ∧ moment ≠ .leave
  · rw [shift_still still]
    refine passes_of_carried ?_ ?_ rfl
    · intro call member state act answered
      have here := (due_registered member).1
      rw [here] at answered
      exact carried _ inside act (answers moment cursor still call member _ state act answered)
    · intro call member state same
      rw [tracks.other moment cursor still call member]
      exact same
  · obtain ⟨isClass, turning⟩ := Classical.not_imp.mp still
    cases moment with
    | enter =>
      rw [tracks.entering cursor isClass, shift, if_pos isClass]
      refine ⟨_, .cons (perform_carried ?_) (.nil _), rfl⟩
      intro act answered
      exact carried _ inside act (entered cursor _ _ act answered)
    | leave =>
      have opened : memory.classes = classify cursor :: frames cursor.ancestors :=
        classes.trans (frames_class isClass _)
      rw [tracks.leaving cursor isClass, shift, if_pos isClass]
      obtain ⟨imports, _, own⟩ := memory
      cases opened
      exact ⟨_, .cons rfl (.nil _), rfl⟩
    | select => simp at turning
    | finish => simp at turning

theorem passes_turns {table : HandlerTable (Memory α)} (tracks : Tracks onEnter table)
    (entered : ∀ cursor frame memory, ∀ act ∈ onEnter cursor frame memory, holds cursor act)
    (answers : ∀ moment cursor,
      (cursor.node.kind ∈ classKinds → moment ≠ .enter ∧ moment ≠ .leave) →
        ∀ call ∈ due table moment cursor, Answers holds call.handler)
    {passed : List (Moment × Cursor)} (turned : passed ⊆ turns root) {memory : Memory α}
    (walk : Walk memory.classes passed) :
    ∃ last, Passes reporter memory (passed.flatMap fun turn => due table turn.1 turn.2) last := by
  induction passed generalizing memory with
  | nil => exact ⟨memory, .nil memory⟩
  | cons turn rest ih =>
    obtain ⟨classes, later⟩ := walk
    obtain ⟨here, others⟩ := List.cons_subset.mp turned
    obtain ⟨next, first, shifted⟩ := passes_turn carried tracks entered answers here classes
    rw [← shifted] at later
    obtain ⟨last, rest⟩ := ih others later
    exact ⟨last, first.append rest⟩

end Tracking

theorem acts_pass {setup : Setup σ} (acts : Acts holds setup) :
    ∃ last, Passes reporter setup.state (reference setup.handlers root) last := by
  cases acts with
  | each _ _ answers => exact passes_each carried answers setup.state
  | tracking names starts listed named apart entered answers =>
    rw [reference_eq]
    refine passes_turns carried starts.tracks entered ?_ (List.Subset.refl _) ?_
    · intro moment cursor still call member
      rw [listed] at member
      exact answers _ (due_others named apart still call member)
    · rw [starts.closed]
      exact (turns_walk root).1

end Rule

theorem acts_prepared {holds : Cursor → Act → Prop} {setup : Setup σ} (acts : Acts holds setup) :
    setupFault? reporter setup = none := by
  have ready (idle : setup.acts = []) (sound : tableFault? setup.handlers = none) :
      setupFault? reporter setup = none := by
    rw [setupFault?, idle, sound]
    rfl
  cases acts with
  | each idle sound _ => exact ready idle sound
  | tracking _ starts => exact ready starts.idle starts.tracks.sound

/-- A rule of the registry leaves no fault on nodes that are regular. -/
theorem rule_silent {rule : Rule} (listed : rule ∈ registry) (settings : rule.Settings)
    (severity : Severity) (context : Context)
    (regular : ∀ cursor ∈ context.root.cursors, Regular context.file.length cursor.node) :
    let reporter := ActiveRule.reporter ⟨rule, severity, rule.checker settings⟩ context.file
    let setup := (rule.checker settings).start context
    (opening reporter setup).faults = [] ∧
      ∀ made ∈ trace reporter setup context.root, made.echo.faults = [] := by
  intro reporter setup
  have acts := registry_answers rule listed settings context
  have prepared : setupFault? reporter setup = none := acts_prepared acts
  obtain ⟨last, passes⟩ : ∃ last, Passes reporter setup.state
      (reference setup.handlers context.root) last := by
    refine acts_pass ?_ acts
    intro cursor member act answer
    refine answer_carried ?_ answer
    intro inner within
    obtain ⟨place, placed, rfl⟩ := within_mem_cursors member within
    exact regular place placed
  constructor
  · rw [opening, prepared]
    rfl
  · rw [trace, prepared]
    exact passes.silent

theorem run_silent {rules : List Rule} {severities : OrderedMap String Severity}
    {options : OrderedMap String JsonObject} {engine : Engine} (builtin : rules ⊆ registry)
    (configured : Engine.configure rules severities options = .ok engine) {file : SourceFile}
    {root : Node} (parsed : file.root? = some root)
    (regular : ∀ cursor ∈ root.cursors, Regular file.length cursor.node) :
    (engine.run file).faults = [] := by
  have silent : ∀ active ∈ engine.rules,
      (opening (active.reporter file) (active.checker.start ⟨file, root⟩)).faults = [] ∧
        ∀ made ∈ trace (active.reporter file) (active.checker.start ⟨file, root⟩) root,
          made.echo.faults = [] := by
    intro active activated
    have settled := configure_settled configured active activated
    obtain ⟨rule, severity, checker⟩ := active
    obtain ⟨settings, same⟩ : ∃ settings, checker = rule.checker settings := settled.checker
    subst same
    exact rule_silent (builtin settled.listed) settings severity ⟨file, root⟩ regular
  rw [(run_report engine parsed).2, List.append_eq_nil_iff, List.flatMap_eq_nil_iff,
    List.flatMap_eq_nil_iff]
  constructor
  · exact fun active activated => (silent active activated).1
  · intro entry journaled
    obtain ⟨active, activated, made, traced, same⟩ := journal_made engine _ entry journaled
    rw [← same]
    exact (silent active activated).2 made traced

/-- Whatever the text, the rules of the registry that are on and their options, no rule fails on a
tree that keeps the promises of a grammar. -/
theorem rules_never_fail {rules : List Rule} {severities : OrderedMap String Severity}
    {options : OrderedMap String JsonObject} {engine : Engine} (builtin : rules ⊆ registry)
    (configured : Engine.configure rules severities options = .ok engine) (grammar : Grammar)
    (filename text : String) (tree : ParseTree) (hasErrors : Bool)
    (read : grammar.parse? text (Text.endsWith filename ".tsx") = some ⟨tree, hasErrors⟩)
    (grammatical : ∀ part ∈ reachable tree, Grammatical text part) :
    ∃ file, SourceFile.parse grammar filename text = .ok file ∧ (engine.run file).faults = [] := by
  obtain ⟨root, node, models⟩ := fitting_models fun part member => (grammatical part member).fits
  refine ⟨_, parse_of_toNode node read, run_silent builtin configured rfl ?_⟩
  intro cursor member
  obtain ⟨part, reached, partModels⟩ := forall₂_mem models member
  exact regular_of_models partModels (grammatical part reached)
    fun child kept => grammatical child (kept_mem_reachable reached kept)

/-- Two decorators with calls, one of them of a member. -/
def decorated : ParseTree :=
  ⟨"program", true, none, 0, 20,
    [⟨"decorator", true, none, 0, 13,
      [⟨"call_expression", true, none, 1, 13,
        [⟨"identifier", true, some "function", 1, 11, []⟩,
          ⟨"arguments", true, some "arguments", 11, 13, []⟩]⟩]⟩,
      ⟨"decorator", true, none, 14, 20,
        [⟨"call_expression", true, none, 15, 20,
          [⟨"member_expression", true, some "function", 15, 18,
            [⟨"identifier", true, some "object", 15, 16, []⟩,
              ⟨"property_identifier", true, some "property", 17, 18, []⟩]⟩,
            ⟨"arguments", true, some "arguments", 18, 20, []⟩]⟩]⟩]⟩

theorem decorated_never_fails :
    ∃ engine, Engine.configure registry .empty .empty = .ok engine ∧
      (∀ part ∈ reachable decorated, Grammatical "@Injectable() @a.b()" part) ∧
      ∃ file, SourceFile.parse ⟨fun _ _ => some ⟨decorated, false⟩⟩ "a.ts"
          "@Injectable() @a.b()" = .ok file ∧
        (engine.run file).faults = [] := by
  obtain ⟨engine, configured⟩ : ∃ engine, Engine.configure registry .empty .empty = .ok engine :=
    ⟨_, rfl⟩
  have promised : ∀ part ∈ reachable decorated, Fits "@Injectable() @a.b()" part ∧
      (part.kind = "arguments" ∨ part.label = some "arguments" → part.startByte < part.endByte) ∧
      (part.kind = "member_expression" →
        (part.kept.filter (labelledAs "object")).length ≤ 1) := by
    decide +kernel
  have grammatical : ∀ part ∈ reachable decorated, Grammatical "@Injectable() @a.b()" part :=
    fun part member =>
      ⟨(promised part member).1, (promised part member).2.1, (promised part member).2.2⟩
  exact ⟨engine, configured, grammatical,
    rules_never_fail (List.Subset.refl _) configured _ "a.ts" _ decorated false rfl grammatical⟩

end AngularLint.Proofs.FaultFreedom
