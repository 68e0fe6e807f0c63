import AngularLint.Proofs.ClassFrames
import AngularLint.Proofs.Places
import AngularLint.Proofs.Reactions

/-! How a rule with named handlers responds along the tour of a tree. It is enough to say what it
remembers of the nodes that it has entered, and how it responds to one more: the tour does the rest,
and for a rule that keeps the open classes it also has them right. -/

namespace AngularLint.Proofs.Responses
open AngularLint.Angular ClassFrames ClassWalk Dispatch EngineTrace FindingOrigin NamedTables
open Reactions RuleTrace

variable {σ : Type}

/-- Names of events that are no selectors and do not concern the leaving of a node. -/
structure Staying (names : List String) : Prop where
  apart : Apart names
  stays : ∀ name ∈ names, ¬ exitSuffix.toList <:+ name.toList

section Tables

variable {handlers : List (String × Handler σ)} {moment : Moment} {cursor : Cursor}

def listening? (handlers : List (String × Handler σ)) (moment : Moment) (node : Node) :
    Option (Handler σ) :=
  match moment with
  | .enter => if node.kind = endEvent then none else handlers.lookup node.kind
  | .finish => handlers.lookup endEvent
  | .select => none
  | .leave => none

def respond (handlers : List (String × Handler σ)) (turn : Moment × Cursor) (state : σ) :
    σ × List Act :=
  match listening? handlers turn.1 turn.2.node with
  | some handler => handler turn.2 state
  | none => (state, [])

theorem respond_named {handler : Handler σ} (unfinished : cursor.node.kind ≠ endEvent)
    (found : handlers.lookup cursor.node.kind = some handler) (state : σ) :
    respond handlers (.enter, cursor) state = handler cursor state := by
  simp only [respond, listening?, if_neg unfinished, found]

theorem respond_silent
    (absent : ∀ entry ∈ handlers, entry.1 = cursor.node.kind → entry.1 = endEvent) (state : σ) :
    respond handlers (.enter, cursor) state = (state, []) := by
  have silent : listening? handlers .enter cursor.node = none := by
    rw [listening?]
    split
    · rfl
    next unfinished =>
      rw [List.lookup_eq_none_iff]
      intro entry member
      apply bne_iff_ne.mpr
      intro same
      exact unfinished (same ▸ absent entry member same.symm)
  rw [respond, silent]

theorem listening?_called (staying : Staying (handlers.map Prod.fst)) {handler : Handler σ}
    (found : listening? handlers moment cursor.node = some handler) :
    ∃ name, (name, handler) ∈ handlers ∧ calledText moment cursor.node name = some name := by
  have listed {name : String} (found : handlers.lookup name = some handler) :
      (name, handler) ∈ handlers := by
    obtain ⟨before, later, split, _⟩ := List.lookup_eq_some_iff.mp found
    exact split ▸ List.mem_append_right _ List.mem_cons_self
  cases moment with
  | enter =>
    rw [listening?, Option.ite_none_left_eq_some] at found
    have stays := staying.stays _ (List.mem_map_of_mem (listed found.2))
    exact ⟨_, listed found.2, if_pos ⟨rfl, found.1, stays⟩⟩
  | finish =>
    refine ⟨endEvent, listed found, ?_⟩
    rw [calledText, if_pos rfl]
  | select => cases found
  | leave => cases found

theorem listening?_silent (staying : Staying (handlers.map Prod.fst))
    (silent : listening? handlers moment cursor.node = none) {entry : String × Handler σ}
    (member : entry ∈ handlers) : calledText moment cursor.node entry.1 = none := by
  have absent {name : String} (missing : handlers.lookup name = none) : entry.1 ≠ name := by
    have other := List.lookup_eq_none_iff.mp missing entry member
    exact fun same => bne_iff_ne.mp other same.symm
  cases moment with
  | enter =>
    apply if_neg
    rintro ⟨same, unfinished, _⟩
    rw [listening?, if_neg (same ▸ unfinished)] at silent
    exact absent silent same
  | finish => exact if_neg (absent silent)
  | select => rfl
  | leave =>
    apply if_neg
    intro same
    apply staying.stays _ (List.mem_map_of_mem member)
    rw [same, String.toList_append]
    exact List.suffix_append _ _

theorem follow_due (staying : Staying (handlers.map Prod.fst)) (state : σ) :
    follow calling state (due (.ofNamed handlers) moment cursor) =
      respond handlers (moment, cursor) state := by
  rw [respond]
  split
  next handler found =>
    obtain ⟨name, listed, called⟩ := listening?_called staying found
    rw [due_of_mem staying.apart listed called]
    simp only [follow, calling, List.append_nil]
  next silent =>
    have none : due (.ofNamed handlers) moment cursor = [] := by
      rw [due_ofNamed staying.apart, List.filterMap_eq_nil_iff]
      intro entry member
      rw [listening?_silent staying silent member]
      rfl
    rw [none]
    rfl

end Tables

/-- The nodes that have been entered. -/
def entered (passed : List (Moment × Cursor)) : List Cursor :=
  passed.filterMap fun turn => if turn.1 = .enter then some turn.2 else none

theorem entered_snoc (passed : List (Moment × Cursor)) (turn : Moment × Cursor) :
    entered (passed ++ [turn]) =
      entered passed ++ if turn.1 = .enter then [turn.2] else [] := by
  rw [entered, List.filterMap_append]
  by_cases entering : turn.1 = .enter <;> simp [entered, entering]

theorem entered_toured (root : Node) : entered (root.tour.flatMap moments) = root.cursors := by
  have visited (visit : Visit) : entered (moments visit) = visit.entered?.toList := by
    cases visit <;> rfl
  rw [Node.cursors, List.filterMap_eq_flatMap_toList, entered, List.filterMap_flatMap]
  exact List.flatMap_congr fun visit _ => visited visit

theorem entered_mem {root : Node} {passed later : List (Moment × Cursor)} {cursor : Cursor}
    (split : turns root = passed ++ (.enter, cursor) :: later) : cursor ∈ root.cursors := by
  have whole : entered (turns root) = root.cursors := by
    rw [turns, entered_snoc, entered_toured]
    exact List.append_nil _
  rw [← whole, split, entered, List.filterMap_append]
  exact List.mem_append_right _ List.mem_cons_self

/-- What is asked for when a node is entered, and at the end, in view of the nodes entered before. -/
def answerAt (verdict : List Cursor → Cursor → List Act) (last : List Cursor → List Act)
    (passed : List (Moment × Cursor)) : Moment × Cursor → List Act
  | (.enter, cursor) => verdict (entered passed) cursor
  | (.finish, _) => last (entered passed)
  | (.select, _) => []
  | (.leave, _) => []

section Places

variable {step : Moment × Cursor → σ → σ × List Act} {remember : List (Moment × Cursor) → σ}
  {verdict : List Cursor → Cursor → List Act} {last : List Cursor → List Act} {root : Node}

theorem answers_by_place (verdict : List Cursor → Cursor → List Act)
    (last : List Cursor → List Act) {passed : List (Moment × Cursor)}
    (unfinished : ∀ turn ∈ passed, turn.1 ≠ .finish) :
    (withEarlier passed).flatMap (fun place => answerAt verdict last place.1 place.2) =
      (withEarlier (entered passed)).flatMap fun place => verdict place.1 place.2 := by
  induction passed using List.reverseRecOn with
  | nil => rfl
  | append_singleton passed turn ih =>
    obtain ⟨before, here⟩ := List.forall_mem_append.mp unfinished
    rw [withEarlier_snoc, List.flatMap_append, ih before, List.flatMap_singleton, entered_snoc]
    obtain ⟨moment, cursor⟩ := turn
    cases moment with
    | enter => rw [if_pos rfl, withEarlier_snoc, List.flatMap_append, List.flatMap_singleton]; rfl
    | select => rw [if_neg (by simp), List.append_nil]; exact List.append_nil _
    | leave => rw [if_neg (by simp), List.append_nil]; exact List.append_nil _
    | finish => exact absurd rfl (here _ (List.mem_singleton_self _))

theorem toured_unfinished (root : Node) : ∀ turn ∈ root.tour.flatMap moments, turn.1 ≠ .finish := by
  rintro ⟨moment, cursor⟩ member rfl
  obtain ⟨visit, _, inside⟩ := List.mem_flatMap.mp member
  cases visit <;> simp [moments] at inside

variable
  (steps : ∀ passed turn later, turns root = passed ++ turn :: later →
    step turn (remember passed) =
      (remember (passed ++ [turn]), answerAt verdict last passed turn))
include steps

theorem remembered {passed later : List (Moment × Cursor)} (split : turns root = passed ++ later) :
    (follow step (remember []) passed).1 = remember passed := by
  induction passed using List.reverseRecOn generalizing later with
  | nil => rfl
  | append_singleton passed turn ih =>
    rw [List.append_assoc] at split
    rw [follow_snoc, ih split, steps passed turn later split]

/-- If every step leads from what is remembered so far to what is remembered then, with its answer,
the tour brings the verdicts on the nodes, each in view of the nodes before it. -/
theorem follow_turns :
    (follow step (remember []) (turns root)).2 =
      (withEarlier root.cursors).flatMap (fun place => verdict place.1 place.2) ++
        last root.cursors := by
  have answers : (follow step (remember []) (turns root)).2 =
      (withEarlier (turns root)).flatMap fun place => answerAt verdict last place.1 place.2 := by
    rw [follow_acts]
    apply List.flatMap_congr
    rintro ⟨passed, turn⟩ member
    obtain ⟨later, split⟩ := mem_withEarlier.mp member
    rw [remembered steps split, steps passed turn later split]
  rw [answers, turns, withEarlier_snoc, List.flatMap_append,
    answers_by_place verdict last (toured_unfinished root), entered_toured, List.flatMap_singleton,
    answerAt, entered_toured]

end Places

section Running

variable {engine : Engine} {active : ActiveRule} {file : SourceFile} {root : Node}
  {verdict : List Cursor → Cursor → List Act} {last : List Cursor → List Act}
  (distinct : engine.ruleIds.Nodup) (activated : active ∈ engine.rules)
  (rooted : file.root? = some root)
include distinct activated rooted

/-- What a report holds of a rule, given what the rule remembers along the tour and what it answers
at each turn. -/
theorem run_remembers (remember : List (Moment × Cursor) → active.checker.State)
    (idle : (active.checker.start ⟨file, root⟩).acts = [])
    (fresh : (active.checker.start ⟨file, root⟩).state = remember [])
    (sound : tableFault? (active.checker.start ⟨file, root⟩).handlers = none)
    (steps : ∀ passed turn later, turns root = passed ++ turn :: later →
      follow calling (remember passed)
          (due (active.checker.start ⟨file, root⟩).handlers turn.1 turn.2) =
        (remember (passed ++ [turn]), answerAt verdict last passed turn))
    {found : List Cursor × Cursor → List Diagnostic} {ending : List Diagnostic}
    (each : ∀ place ∈ withEarlier root.cursors,
      (active.reporter file).perform (verdict place.1 place.2) = (found place, none))
    (closing : (active.reporter file).perform (last root.cursors) = (ending, none)) :
    (engine.run file).forRule active.rule.id =
        (withEarlier root.cursors).flatMap found ++ ending ∧
      (engine.run file).faults.filter (·.rule == active.rule.id) = [] := by
  apply run_reacts distinct activated rooted idle sound
  rw [reference_eq, follow_flatMap, fresh, follow_turns steps]
  exact perform_both (perform_each each) closing

end Running

/-- What a report holds of a rule that has named handlers and keeps no classes: enough is to say what
it remembers of the nodes entered, and how it responds to one more and at the end. -/
theorem run_named {engine : Engine} (distinct : engine.ruleIds.Nodup) {rule : Rule}
    {severity : Severity} {start : Context → Setup σ}
    (activated : ⟨rule, severity, ⟨σ, start⟩⟩ ∈ engine.rules) {file : SourceFile} {root : Node}
    (rooted : file.root? = some root) {remember : List Cursor → σ}
    {handlers : List (String × Handler σ)}
    (starts : start ⟨file, root⟩ = ⟨[], remember [], .ofNamed handlers⟩)
    {verdict : List Cursor → Cursor → List Act} {last : List Cursor → List Act}
    (entering : ∀ earlier, ∀ cursor ∈ root.cursors,
      respond handlers (.enter, cursor) (remember earlier) =
        (remember (earlier ++ [cursor]), verdict earlier cursor))
    (finishing : ∀ earlier, respond handlers (.finish, .ofRoot root) (remember earlier) =
      (remember earlier, last earlier))
    (staying : Staying (handlers.map Prod.fst))
    {found : List Cursor × Cursor → List Diagnostic} {ending : List Diagnostic}
    (each : ∀ place ∈ withEarlier root.cursors,
      (ActiveRule.reporter ⟨rule, severity, ⟨σ, start⟩⟩ file).perform (verdict place.1 place.2) =
        (found place, none))
    (closing : (ActiveRule.reporter ⟨rule, severity, ⟨σ, start⟩⟩ file).perform
      (last root.cursors) = (ending, none)) :
    (engine.run file).forRule rule.id = (withEarlier root.cursors).flatMap found ++ ending ∧
      (engine.run file).faults.filter (·.rule == rule.id) = [] := by
  have steps (passed : List (Moment × Cursor)) (turn : Moment × Cursor)
      (later : List (Moment × Cursor)) (split : turns root = passed ++ turn :: later) :
      follow calling (remember (entered passed)) (due (.ofNamed handlers) turn.1 turn.2) =
        (remember (entered (passed ++ [turn])), answerAt verdict last passed turn) := by
    obtain ⟨moment, cursor⟩ := turn
    rw [follow_due staying, entered_snoc]
    cases moment with
    | enter => exact entering _ cursor (entered_mem split)
    | select => rw [if_neg (by simp), List.append_nil]; rfl
    | leave => rw [if_neg (by simp), List.append_nil]; rfl
    | finish =>
      have atRoot : cursor = .ofRoot root :=
        finish_at_root (split ▸ List.mem_append_right _ List.mem_cons_self)
      rw [if_neg (by simp), List.append_nil, atRoot]
      exact finishing _
  refine run_remembers distinct activated rooted (fun passed => remember (entered passed))
    (congrArg Setup.acts starts) (congrArg Setup.state starts) ?_ ?_ each closing
  · exact (congrArg (fun setup => tableFault? setup.handlers) starts).trans
      (tableFault?_ofNamed staying.apart)
  · intro passed turn later split
    rw [← steps passed turn later split]
    exact congrArg (fun setup : Setup σ => follow calling (remember (entered passed))
      (due setup.handlers turn.1 turn.2)) starts

section Classes

variable {α : Type} {onEnter : Cursor → ClassFrame → Memory α → List Act}
  {others : List (String × Handler (Memory α))}

theorem due_beside (apart : Apart (classKeys ++ others.map Prod.fst)) {moment : Moment}
    {cursor : Cursor}
    (still : cursor.node.kind ∈ classKinds → moment ≠ .enter ∧ moment ≠ .leave) :
    due (.ofNamed (trackClasses onEnter ++ others)) moment cursor =
      due (.ofNamed others) moment cursor := by
  have silent : (trackClasses onEnter).filterMap (fun entry =>
      (calledText moment cursor.node entry.1).map fun name => Call.mk name entry.2 cursor) = [] := by
    rw [List.filterMap_eq_nil_iff]
    intro entry member
    rw [Option.map_eq_none_iff, Option.eq_none_iff_forall_ne_some]
    intro name called
    have known : entry.1 ∈ classKeys := List.mem_map_of_mem (f := Prod.fst) member
    obtain ⟨isClass, turning⟩ := class_key_called known called
    exact not_or.mpr (still isClass) turning
  rw [due_ofNamed (tracked_apart rfl apart),
    due_ofNamed (apart.sublist (List.sublist_append_right _ _)), List.filterMap_append, silent,
    List.nil_append]

/-- What a rule that keeps the open classes remembers besides them, and how it responds to a node
with those classes open that are around it. -/
structure Remembering (onEnter : Cursor → ClassFrame → Memory α → List Act)
    (others : List (String × Handler (Memory α))) (root : Node)
    (imports : List Cursor → ImportTable) (own : List Cursor → α)
    (verdict : List Cursor → Cursor → List Act) (last : List Cursor → List Act) : Prop where
  opening : ∀ earlier, ∀ cursor ∈ root.cursors, cursor.node.kind ∈ classKinds →
    imports (earlier ++ [cursor]) = imports earlier ∧ own (earlier ++ [cursor]) = own earlier ∧
      onEnter cursor (classify cursor)
        ⟨imports earlier, frames (cursor.node :: cursor.ancestors), own earlier⟩ =
          verdict earlier cursor
  entering : ∀ earlier, ∀ cursor ∈ root.cursors, cursor.node.kind ∉ classKinds →
    respond others (.enter, cursor) ⟨imports earlier, frames cursor.ancestors, own earlier⟩ =
      (⟨imports (earlier ++ [cursor]), frames cursor.ancestors, own (earlier ++ [cursor])⟩,
        verdict earlier cursor)
  finishing : ∀ earlier,
    respond others (.finish, .ofRoot root) ⟨imports earlier, [], own earlier⟩ =
      (⟨imports earlier, [], own earlier⟩, last earlier)

def memoryAfter (imports : List Cursor → ImportTable) (own : List Cursor → α)
    (passed : List (Moment × Cursor)) : Memory α :=
  ⟨imports (entered passed), passed.foldl shift [], own (entered passed)⟩

variable {root : Node} {imports : List Cursor → ImportTable} {own : List Cursor → α}
  {verdict : List Cursor → Cursor → List Act} {last : List Cursor → List Act}

theorem memoryAfter_snoc {passed later : List (Moment × Cursor)} {turn : Moment × Cursor}
    (split : turns root = passed ++ turn :: later) (unentered : turn.1 ≠ .enter) :
    memoryAfter imports own (passed ++ [turn]) =
      ⟨imports (entered passed), shift (openAt turn) turn, own (entered passed)⟩ := by
  rw [memoryAfter, entered_snoc, if_neg unentered, List.append_nil, List.foldl_append,
    open_at_turn split]
  rfl

/-- The names of the other handlers are apart from those that keep the classes. -/
structure Beside (names : List String) : Prop where
  apart : Apart (classKeys ++ names)
  stays : ∀ name ∈ names, ¬ exitSuffix.toList <:+ name.toList

theorem Beside.staying {names : List String} (beside : Beside names) : Staying names :=
  ⟨beside.apart.sublist (List.sublist_append_right _ _), beside.stays⟩

theorem beside_of_listed {names : List String} (listed : names.Sublist otherNames) :
    Beside names where
  apart := otherNames_apart listed
  stays := by
    have all : ∀ name ∈ otherNames, ¬ exitSuffix.toList <:+ name.toList := by decide
    exact fun name member => all name (listed.subset member)

theorem follow_still (beside : Beside (others.map Prod.fst)) {moment : Moment} {cursor : Cursor}
    (still : cursor.node.kind ∈ classKinds → moment ≠ .enter ∧ moment ≠ .leave)
    (memory : Memory α) :
    follow calling memory (due (.ofNamed (trackClasses onEnter ++ others)) moment cursor) =
      respond others (moment, cursor) memory := by
  rw [due_beside beside.apart still, follow_due beside.staying]

theorem follow_enter (tracks : Tracks onEnter (.ofNamed (trackClasses onEnter ++ others)))
    (beside : Beside (others.map Prod.fst))
    (remembering : Remembering onEnter others root imports own verdict last)
    (earlier : List Cursor) {cursor : Cursor} (member : cursor ∈ root.cursors) :
    follow calling ⟨imports earlier, frames cursor.ancestors, own earlier⟩
        (due (.ofNamed (trackClasses onEnter ++ others)) .enter cursor) =
      (⟨imports (earlier ++ [cursor]), frames (cursor.node :: cursor.ancestors),
        own (earlier ++ [cursor])⟩, verdict earlier cursor) := by
  by_cases isClass : cursor.node.kind ∈ classKinds
  · obtain ⟨sameImports, sameOwn, answer⟩ := remembering.opening earlier cursor member isClass
    rw [tracks.entering cursor isClass, sameImports, sameOwn, ← answer, frames_class isClass]
    simp only [follow, calling, pushClass, List.append_nil]
  · rw [follow_still beside fun inside => absurd inside isClass, frames_other isClass]
    exact remembering.entering earlier cursor member isClass

theorem follow_leave (tracks : Tracks onEnter (.ofNamed (trackClasses onEnter ++ others)))
    (beside : Beside (others.map Prod.fst)) (table : ImportTable) (held : α) (cursor : Cursor) :
    follow calling ⟨table, frames (cursor.node :: cursor.ancestors), held⟩
        (due (.ofNamed (trackClasses onEnter ++ others)) .leave cursor) =
      (⟨table, frames cursor.ancestors, held⟩, []) := by
  by_cases isClass : cursor.node.kind ∈ classKinds
  · rw [tracks.leaving cursor isClass, frames_class isClass]
    rfl
  · rw [follow_still beside fun inside => absurd inside isClass, frames_other isClass]
    rfl

/-- One turn of the tour takes the memory of such a rule from what it was to what it has to be. -/
theorem class_steps (tracks : Tracks onEnter (.ofNamed (trackClasses onEnter ++ others)))
    (beside : Beside (others.map Prod.fst))
    (remembering : Remembering onEnter others root imports own verdict last)
    (passed : List (Moment × Cursor)) (turn : Moment × Cursor) (later : List (Moment × Cursor))
    (split : turns root = passed ++ turn :: later) :
    follow calling (memoryAfter imports own passed)
        (due (.ofNamed (trackClasses onEnter ++ others)) turn.1 turn.2) =
      (memoryAfter imports own (passed ++ [turn]), answerAt verdict last passed turn) := by
  have opened : memoryAfter imports own passed =
      ⟨imports (entered passed), openAt turn, own (entered passed)⟩ := by
    rw [memoryAfter, open_at_turn split]
  obtain ⟨moment, cursor⟩ := turn
  rw [opened]
  cases moment with
  | enter =>
    rw [openAt, follow_enter tracks beside remembering _ (entered_mem split), memoryAfter,
      entered_snoc, if_pos rfl, List.foldl_append, open_at_turn split]
    exact congrArg (fun classes => (Memory.mk _ classes _, _)) (shift_enter _ _).symm
  | select =>
    rw [follow_still beside (by simp), memoryAfter_snoc split (by simp)]
    rfl
  | leave =>
    rw [openAt, follow_leave tracks beside, memoryAfter_snoc split (by simp), openAt, shift_leave]
    rfl
  | finish =>
    have atRoot : cursor = .ofRoot root :=
      finish_at_root (split ▸ List.mem_append_right _ List.mem_cons_self)
    rw [follow_still beside (by simp), memoryAfter_snoc split (by simp), atRoot]
    exact remembering.finishing _

/-- What a report holds of a rule that keeps the open classes: its verdicts on the nodes, each in
view of the nodes before it and of the classes around it, and what it says at the end. -/
theorem run_in_classes {engine : Engine} (distinct : engine.ruleIds.Nodup) {rule : Rule}
    {severity : Severity} {start : Context → Setup (Memory α)}
    (activated : ⟨rule, severity, ⟨Memory α, start⟩⟩ ∈ engine.rules) {file : SourceFile}
    (rooted : file.root? = some root)
    (starts : start ⟨file, root⟩ =
      ⟨[], ⟨imports [], [], own []⟩, .ofNamed (trackClasses onEnter ++ others)⟩)
    (begins : Starts onEnter (start ⟨file, root⟩))
    (remembering : Remembering onEnter others root imports own verdict last)
    (beside : Beside (others.map Prod.fst))
    {found : List Cursor × Cursor → List Diagnostic} {ending : List Diagnostic}
    (each : ∀ place ∈ withEarlier root.cursors,
      (ActiveRule.reporter ⟨rule, severity, ⟨Memory α, start⟩⟩ file).perform
        (verdict place.1 place.2) = (found place, none))
    (closing : (ActiveRule.reporter ⟨rule, severity, ⟨Memory α, start⟩⟩ file).perform
      (last root.cursors) = (ending, none)) :
    (engine.run file).forRule rule.id = (withEarlier root.cursors).flatMap found ++ ending ∧
      (engine.run file).faults.filter (·.rule == rule.id) = [] := by
  have tracks : Tracks onEnter (.ofNamed (trackClasses onEnter ++ others)) := by
    have begun := begins.tracks
    rw [starts] at begun
    exact begun
  refine run_remembers distinct activated rooted (memoryAfter imports own)
    (congrArg Setup.acts starts) (congrArg Setup.state starts) ?_ ?_ each closing
  · exact (congrArg (fun setup => tableFault? setup.handlers) starts).trans tracks.sound
  · intro passed turn later split
    have step := class_steps tracks beside remembering passed turn later split
    rw [← step]
    exact congrArg (fun setup : Setup (Memory α) => follow calling (memoryAfter imports own passed)
      (due setup.handlers turn.1 turn.2)) starts

end Classes

end AngularLint.Proofs.Responses
