import AngularLint.Proofs.ClassWalk
import AngularLint.Proofs.EngineTrace
import AngularLint.Proofs.NamedTables
import AngularLint.Rules.ConstructorInjection
import AngularLint.Rules.DataFetch
import AngularLint.Rules.ServiceInjection
import AngularLint.Rules.SignalInputs

/-! The rules that keep the open classes. Whenever one of their handlers runs, the stack holds the
classes around the node, as the tree has them; a class that is entered is on top when it is looked
at, and when a class is left the stack is never empty. -/

namespace AngularLint.Proofs.ClassFrames
open AngularLint.Angular AngularLint.Rules ClassWalk Dispatch EngineTrace NamedTables RuleTrace

variable {α : Type} {onEnter : Cursor → ClassFrame → Memory α → List Act}

def classKeys : List String :=
  classKinds.flatMap fun kind => [kind, kind ++ exitSuffix]

def KeepsClasses (handler : Handler (Memory α)) : Prop :=
  ∀ cursor memory, (handler cursor memory).1.classes = memory.classes

theorem stateless_keeps (check : Cursor → Memory α → List Act) :
    KeepsClasses (Handler.stateless check) :=
  fun _ _ => rfl

theorem recordImports_keeps (source : String) :
    KeepsClasses (recordImports source : Handler (Memory α)) :=
  fun _ _ => rfl

/-- A table that pushes every class when it is entered and pops it when it is left; no other handler
of it touches the stack. -/
structure Tracks (onEnter : Cursor → ClassFrame → Memory α → List Act)
    (table : HandlerTable (Memory α)) : Prop where
  sound : tableFault? table = none
  entering : ∀ cursor, cursor.node.kind ∈ classKinds →
    due table .enter cursor = [⟨cursor.node.kind, pushClass onEnter, cursor⟩]
  leaving : ∀ cursor, cursor.node.kind ∈ classKinds →
    due table .leave cursor = [⟨cursor.node.kind ++ exitSuffix, popClass, cursor⟩]
  other : ∀ moment cursor,
    (cursor.node.kind ∈ classKinds → moment ≠ .enter ∧ moment ≠ .leave) →
      ∀ call ∈ due table moment cursor, KeepsClasses call.handler

private theorem class_kind_plain : ∀ kind ∈ classKinds,
    kind ≠ endEvent ∧ ¬ exitSuffix.toList <:+ kind.toList ∧ kind ++ exitSuffix ≠ endEvent := by
  decide

/-- The names of the two handlers for a kind of class are called for classes only, when they are
entered and left. -/
theorem class_key_called {moment : Moment} {node : Node} {key name : String}
    (known : key ∈ classKeys) (called : calledText moment node key = some name) :
    node.kind ∈ classKinds ∧ (moment = .enter ∨ moment = .leave) := by
  obtain ⟨kind, isClass, either⟩ := List.mem_flatMap.mp known
  obtain ⟨unfinished, stays, exitUnfinished⟩ := class_kind_plain kind isClass
  have exits : exitSuffix.toList <:+ (kind ++ exitSuffix).toList := by
    rw [String.toList_append]
    exact List.suffix_append _ _
  rcases List.mem_cons.mp either with rfl | left
  · cases moment <;> simp only [calledText, Option.ite_none_right_eq_some, reduceCtorEq] at called
    case enter => exact ⟨called.1.1 ▸ isClass, .inl rfl⟩
    case leave =>
      rw [called.1, String.toList_append] at stays
      exact absurd (List.suffix_append _ _) stays
    case finish => exact absurd called.1 unfinished
  · cases List.mem_singleton.mp left
    cases moment <;> simp only [calledText, Option.ite_none_right_eq_some, reduceCtorEq] at called
    case enter => exact absurd exits called.1.2.2
    case leave => exact ⟨(String.append_left_inj exitSuffix).mp called.1 ▸ isClass, .inr rfl⟩
    case finish => exact absurd called.1 exitUnfinished

section Tracked

variable {others : List (String × Handler (Memory α))} {names : List String}

theorem tracked_apart (named : others.map Prod.fst = names) (apart : Apart (classKeys ++ names)) :
    Apart ((trackClasses onEnter ++ others).map Prod.fst) := by
  rw [List.map_append, named]
  exact apart

/-- Unless a class is entered or left, only handlers other than those of the classes are called. -/
theorem due_others (named : others.map Prod.fst = names) (apart : Apart (classKeys ++ names))
    {moment : Moment} {cursor : Cursor}
    (still : cursor.node.kind ∈ classKinds → moment ≠ .enter ∧ moment ≠ .leave) :
    ∀ call ∈ due (.ofNamed (trackClasses onEnter ++ others)) moment cursor,
      (call.event, call.handler) ∈ others := by
  intro call member
  obtain ⟨listed, _, called⟩ := mem_due (tracked_apart named apart) member
  rcases List.mem_append.mp listed with tracking | other
  · have known : call.event ∈ classKeys := List.mem_map_of_mem (f := Prod.fst) tracking
    obtain ⟨isClass, turning⟩ := class_key_called known called
    exact absurd turning (not_or.mpr (still isClass))
  · exact other

theorem tracks_ofNamed (names : List String) (named : others.map Prod.fst = names)
    (apart : Apart (classKeys ++ names))
    (keep : ∀ other ∈ others, KeepsClasses other.2) :
    Tracks onEnter (.ofNamed (trackClasses onEnter ++ others)) := by
  have whole : Apart ((trackClasses onEnter ++ others).map Prod.fst) := tracked_apart named apart
  have tracked (kind : String) (isClass : kind ∈ classKinds) (entry : String × Handler (Memory α))
      (one : entry ∈ [(kind, pushClass onEnter), (kind ++ exitSuffix, popClass)]) :
      entry ∈ trackClasses onEnter ++ others := by
    rw [trackClasses]
    exact List.mem_append_left _ (List.mem_flatMap.mpr ⟨kind, isClass, one⟩)
  refine ⟨tableFault?_ofNamed whole, ?_, ?_, ?_⟩
  · intro cursor isClass
    refine due_of_mem whole (tracked _ isClass _ List.mem_cons_self) ?_
    obtain ⟨unfinished, stays, _⟩ := class_kind_plain _ isClass
    rw [calledText, if_pos ⟨rfl, unfinished, stays⟩]
  · intro cursor isClass
    refine due_of_mem whole
      (tracked _ isClass _ (List.mem_cons_of_mem _ (List.mem_singleton_self _))) ?_
    rw [calledText, if_pos rfl]
  · intro moment cursor still call member
    exact keep _ (due_others named apart still call member)

end Tracked

/-- The names of the events that the rules listen to besides those of the classes. -/
def otherNames : List String :=
  ["import_statement", endEvent] ++ SignalInputs.fieldKinds ++
    ["call_expression", "method_definition"]

theorem otherNames_apart {names : List String} (listed : names.Sublist otherNames) :
    Apart (classKeys ++ names) := by
  have all : Apart (classKeys ++ otherNames) := ⟨by decide +kernel, by decide +kernel⟩
  exact all.sublist (listed.append_left _)

/-- The rules that keep the open classes, with what they do when a class is entered. -/
inductive ClassKeeper : {α : Type} → (Context → Setup (Memory α)) →
    (Context → Cursor → ClassFrame → Memory α → List Act) → Prop where
  | constructorInjection :
      ClassKeeper (ConstructorInjection.rule.checker ()).start fun _ _ _ _ => []
  | serviceInjection :
      ClassKeeper (ServiceInjection.rule.checker ()).start
        fun context => ServiceInjection.check context.root
  | signalInputs : ClassKeeper (SignalInputs.rule.checker ()).start fun _ _ _ _ => []
  | dataFetch (settings : DataFetch.Settings) :
      ClassKeeper (DataFetch.rule.checker settings).start fun _ _ _ _ => []

/-- A rule that starts at once, with no class open, and tracks classes from then on. -/
structure Starts (onEnter : Cursor → ClassFrame → Memory α → List Act)
    (setup : Setup (Memory α)) : Prop where
  idle : setup.acts = []
  closed : setup.state.classes = []
  tracks : Tracks onEnter setup.handlers

theorem ClassKeeper.starts {start : Context → Setup (Memory α)}
    {onEnter : Context → Cursor → ClassFrame → Memory α → List Act}
    (keeper : ClassKeeper start onEnter) (context : Context) :
    Starts (onEnter context) (start context) := by
  cases keeper with
  | constructorInjection =>
    refine ⟨rfl, rfl, tracks_ofNamed ["method_definition"] rfl
      (otherNames_apart (by decide)) ?_⟩
    rw [List.forall_mem_singleton]
    exact stateless_keeps _
  | serviceInjection =>
    refine ⟨rfl, rfl, tracks_ofNamed ["import_statement"] rfl
      (otherNames_apart (by decide)) ?_⟩
    rw [List.forall_mem_singleton]
    exact recordImports_keeps _
  | signalInputs =>
    have kept : KeepsClasses SignalInputs.checkField := by
      intro cursor memory
      rw [SignalInputs.checkField]
      split <;> rfl
    refine ⟨rfl, rfl, ?_⟩
    change Tracks _ (.ofNamed ((trackClasses _ ++ _) ++ _))
    rw [List.append_assoc]
    refine tracks_ofNamed (["import_statement", endEvent] ++ SignalInputs.fieldKinds) rfl
      (otherNames_apart (by decide)) ?_
    simp only [List.forall_mem_append, List.forall_mem_cons, List.forall_mem_map]
    exact ⟨⟨recordImports_keeps _, stateless_keeps _, by simp⟩, fun _ _ => kept⟩
  | dataFetch settings =>
    refine ⟨rfl, rfl, tracks_ofNamed ["call_expression", "method_definition"] rfl
      (otherNames_apart (by decide)) ?_⟩
    rw [List.forall_mem_cons, List.forall_mem_singleton]
    exact ⟨stateless_keeps _, stateless_keeps _⟩

theorem foldl_keeps {reporter : Reporter} {calls : List (Call (Memory α))}
    (keep : ∀ call ∈ calls, KeepsClasses call.handler) {progress : Progress (Memory α)}
    (enabled : (calls.foldl (advance reporter) progress).enabled = true) :
    progress.enabled = true ∧
      (calls.foldl (advance reporter) progress).state.classes = progress.state.classes := by
  induction calls generalizing progress with
  | nil => exact ⟨enabled, rfl⟩
  | cons call rest ih =>
    obtain ⟨still, same⟩ :=
      ih (fun later member => keep later (List.mem_cons_of_mem _ member)) enabled
    obtain ⟨memory, before, echo⟩ := progress
    cases before with
    | false => cases still
    | true =>
      have first := keep call List.mem_cons_self call.cursor memory
      exact ⟨rfl, same.trans first⟩

theorem advance_push {reporter : Reporter} {cursor : Cursor} {name : String}
    {progress : Progress (Memory α)}
    (enabled : (advance reporter progress ⟨name, pushClass onEnter, cursor⟩).enabled = true) :
    progress.enabled = true ∧
      (advance reporter progress ⟨name, pushClass onEnter, cursor⟩).state.classes =
        classify cursor :: progress.state.classes := by
  obtain ⟨memory, before, echo⟩ := progress
  cases before with
  | false => cases enabled
  | true => exact ⟨rfl, rfl⟩

theorem advance_pop {reporter : Reporter} {cursor : Cursor} {name : String}
    {progress : Progress (Memory α)}
    (enabled : (advance reporter progress ⟨name, popClass, cursor⟩).enabled = true) :
    progress.enabled = true ∧
      (advance reporter progress ⟨name, popClass, cursor⟩).state.classes =
        progress.state.classes.tail := by
  obtain ⟨⟨imports, classes, own⟩, before, echo⟩ := progress
  cases before with
  | false => cases enabled
  | true =>
    -- without an open class the handler fails, and the rule is not heard any more
    cases classes with
    | nil => cases enabled
    | cons frame outer => exact ⟨rfl, rfl⟩

/-- What a moment does to the stack of a rule that is still heard after it. -/
theorem foldl_shift {table : HandlerTable (Memory α)} (tracks : Tracks onEnter table)
    {reporter : Reporter} {moment : Moment} {cursor : Cursor} {progress : Progress (Memory α)}
    (enabled : ((due table moment cursor).foldl (advance reporter) progress).enabled = true) :
    progress.enabled = true ∧
      ((due table moment cursor).foldl (advance reporter) progress).state.classes =
        shift progress.state.classes (moment, cursor) := by
  by_cases isClass : cursor.node.kind ∈ classKinds
  · cases moment with
    | enter =>
      rw [tracks.entering cursor isClass] at enabled ⊢
      rw [shift, if_pos isClass]
      exact advance_push enabled
    | leave =>
      rw [tracks.leaving cursor isClass] at enabled ⊢
      rw [shift, if_pos isClass]
      exact advance_pop enabled
    | select => exact foldl_keeps (tracks.other .select cursor (by simp)) enabled
    | finish => exact foldl_keeps (tracks.other .finish cursor (by simp)) enabled
  · have kept :=
      foldl_keeps (tracks.other moment cursor fun inside => absurd inside isClass) enabled
    cases moment <;> simpa only [shift, if_neg isClass] using kept

/-- A listener of a rule, which has the classes of a stack open unless it has failed. -/
def Tracking (reporter : Reporter) (handlers : List (Event × Handler (Memory α)))
    (stack : ClassStack) (listener : Listener) : Prop :=
  ∃ memory enabled, listener = ⟨reporter, Memory α, memory, handlers, enabled⟩ ∧
    (enabled = true → memory.classes = stack)

/-- The listener calls the handlers of a table, whatever its state. -/
def Serves (reporter : Reporter) (handlers : List (Event × Handler (Memory α)))
    (table : HandlerTable (Memory α)) : Prop :=
  ∀ memory enabled moment cursor,
    dueTo ⟨reporter, Memory α, memory, handlers, enabled⟩ moment cursor = due table moment cursor

section Listening

variable {table : HandlerTable (Memory α)} {reporter : Reporter}
  {handlers : List (Event × Handler (Memory α))} (tracks : Tracks onEnter table)
  (serves : Serves reporter handlers table)
include tracks serves

theorem hear_tracking {stack : ClassStack} {listener : Listener}
    (tracking : Tracking reporter handlers stack listener) (moment : Moment) (cursor : Cursor) :
    Tracking reporter handlers (shift stack (moment, cursor)) (listener.hear moment cursor).1 := by
  obtain ⟨memory, enabled, rfl, held⟩ := tracking
  rw [hear_eq]
  refine ⟨_, _, rfl, ?_⟩
  intro still
  rw [after, serves] at still ⊢
  obtain ⟨before, shifted⟩ := foldl_shift tracks still
  rw [shifted, held before]

theorem run_tracking {place : Nat} {run : Run} {stack : ClassStack} {listener : Listener}
    (found : run.listeners[place]? = some listener)
    (tracking : Tracking reporter handlers stack listener) (passed : List (Moment × Cursor)) :
    ∃ listener, (passed.foldl (fun run turn => run.hear turn.1 turn.2) run).listeners[place]? =
        some listener ∧ Tracking reporter handlers (passed.foldl shift stack) listener := by
  induction passed generalizing run stack listener with
  | nil => exact ⟨listener, found, tracking⟩
  | cons turn rest ih =>
    obtain ⟨moment, cursor⟩ := turn
    refine ih ?_ (hear_tracking tracks serves tracking moment cursor)
    rw [hear_listeners, List.getElem?_map, found]
    rfl

end Listening

/-- The run of an engine over a file, up to some moment of the tour. -/
def runAfter (engine : Engine) (context : Context) (passed : List (Moment × Cursor)) : Run :=
  passed.foldl (fun run turn => run.hear turn.1 turn.2) (engine.start context)

/-- A rule that has not failed so far calls a handler at a moment of the tour, with this memory. -/
inductive Calls (engine : Engine) (context : Context) (place : Nat) (moment : Moment)
    (cursor : Cursor) (handler : Handler (Memory α)) (memory : Memory α) : Prop where
  | intro (passed later : List (Moment × Cursor)) (reporter : Reporter) (first : Memory α)
      (handlers : List (Event × Handler (Memory α))) (enabled : Bool) (event : String)
      (before behind : List (String × Handler (Memory α))) (echo : Echo)
      (turn : turns context.root = passed ++ (moment, cursor) :: later)
      (listening : (runAfter engine context passed).listeners[place]? =
        some ⟨reporter, Memory α, first, handlers, enabled⟩)
      (concerned : Listener.concerned ⟨reporter, Memory α, first, handlers, enabled⟩ moment
        cursor.node = before ++ (event, handler) :: behind)
      (reached : before.foldl (Progress.call reporter cursor) ⟨first, enabled, .silence⟩ =
        ⟨memory, true, echo⟩) :
      Calls engine context place moment cursor handler memory

/-- What the memory of a rule says about classes when a handler is called. -/
structure Scoped (onEnter : Cursor → ClassFrame → Memory α → List Act) (moment : Moment)
    (cursor : Cursor) (handler : Handler (Memory α)) (memory : Memory α) : Prop where
  around : cursor.node.kind ∉ classKinds →
    memory.classes = (classesAbove cursor.ancestors).map classify
  entered : cursor.node.kind ∈ classKinds → moment = .enter →
    let inside :=
      { memory with
        classes := classify cursor :: (classesAbove cursor.ancestors).map classify }
    handler cursor memory = (inside, onEnter cursor (classify cursor) inside)
  left : cursor.node.kind ∈ classKinds → moment = .leave →
    memory.classes = classify cursor :: (classesAbove cursor.ancestors).map classify ∧
      handler cursor memory =
        ({ memory with classes := (classesAbove cursor.ancestors).map classify }, [])
  finished : moment = .finish → memory.classes = []
  enclosing : cursor.node.kind ∉ classKinds → ∀ owner, enclosingClass? cursor = some owner →
    ∃ frame outer, memory.classes = frame :: outer ∧ frame.node? = some owner
  marked : cursor.node.kind ∉ classKinds → ∀ mark,
    memory.classes.inside mark = true ↔ ∃ nearest outer,
      classesAbove cursor.ancestors = nearest :: outer ∧ mark ∈ marksOf (classDecorators nearest)

theorem frames_enclosing {cursor : Cursor} {owner : Node}
    (enclosing : enclosingClass? cursor = some owner) :
    ∃ frame outer, frames cursor.ancestors = frame :: outer ∧ frame.node? = some owner := by
  rw [enclosingClass?] at enclosing
  split at enclosing
  next body nearest outer split =>
    rw [Option.ite_none_right_eq_some, Bool.and_eq_true, beq_iff_eq,
      List.contains_iff_mem] at enclosing
    obtain ⟨⟨isBody, isClass⟩, same⟩ := enclosing
    cases same
    have noClass : body.kind ∉ classKinds := by
      rw [isBody]
      decide
    rw [split, frames_other noClass, frames_class isClass]
    exact ⟨_, _, rfl, rfl⟩
  next => cases enclosing

theorem frames_inside (ancestors : List Node) (mark : String) :
    ClassStack.inside (frames ancestors) mark = true ↔ ∃ nearest outer,
      classesAbove ancestors = nearest :: outer ∧ mark ∈ marksOf (classDecorators nearest) := by
  rw [frames]
  cases classesAbove ancestors with
  | nil => simp [ClassStack.inside]
  | cons nearest outer => simp [ClassStack.inside, classify]

section Calling

variable {table : HandlerTable (Memory α)} {reporter : Reporter}
  {handlers : List (Event × Handler (Memory α))} {moment : Moment} {cursor : Cursor}

/-- A handler that is called finds the classes open that were so when the moment came; for a class
that is entered or left it is the handler that pushes or pops it. -/
theorem classes_at_call (tracks : Tracks onEnter table) {calls behind : List (Call (Memory α))}
    {call : Call (Memory α)} {stack : ClassStack} {progress : Progress (Memory α)}
    {memory : Memory α} {echo : Echo}
    (held : progress.enabled = true → progress.state.classes = stack)
    (split : due table moment cursor = calls ++ call :: behind)
    (reached : calls.foldl (advance reporter) progress = ⟨memory, true, echo⟩) :
    memory.classes = stack ∧
      (cursor.node.kind ∈ classKinds →
        (moment = .enter → call.handler = pushClass onEnter) ∧
          (moment = .leave → call.handler = popClass)) := by
  have only {single : Call (Memory α)} (alone : due table moment cursor = [single]) :
      memory.classes = stack ∧ call = single := by
    rw [split] at alone
    cases calls with
    | nil =>
      cases reached
      exact ⟨held rfl, (List.cons.inj alone).1⟩
    | cons first others => simp at alone
  by_cases turning : cursor.node.kind ∈ classKinds ∧ (moment = .enter ∨ moment = .leave)
  · obtain ⟨isClass, rfl | rfl⟩ := turning
    · obtain ⟨same, rfl⟩ := only (tracks.entering cursor isClass)
      exact ⟨same, fun _ => ⟨fun _ => rfl, nofun⟩⟩
    · obtain ⟨same, rfl⟩ := only (tracks.leaving cursor isClass)
      exact ⟨same, fun _ => ⟨nofun, fun _ => rfl⟩⟩
  · have still : cursor.node.kind ∈ classKinds → moment ≠ .enter ∧ moment ≠ .leave :=
      fun isClass => not_or.mp fun either => turning ⟨isClass, either⟩
    have keep : ∀ call ∈ calls, KeepsClasses call.handler := fun call member =>
      tracks.other moment cursor still call (split ▸ List.mem_append_left _ member)
    have kept := foldl_keeps keep (congrArg Progress.enabled reached)
    rw [reached] at kept
    exact ⟨kept.2.trans (held kept.1), fun isClass =>
      ⟨fun entering => absurd entering (still isClass).1,
        fun leaving => absurd leaving (still isClass).2⟩⟩

theorem scoped_of_classes {root : Node} {handler : Handler (Memory α)} {memory : Memory α}
    (member : (moment, cursor) ∈ turns root) (classes : memory.classes = openAt (moment, cursor))
    (turning : cursor.node.kind ∈ classKinds →
      (moment = .enter → handler = pushClass onEnter) ∧ (moment = .leave → handler = popClass)) :
    Scoped onEnter moment cursor handler memory where
  around other := classes.trans (openAt_other member other)
  entered isClass entering := by
    subst entering
    rw [(turning isClass).1 rfl, pushClass, classes]
    rfl
  left isClass leaving := by
    subst leaving
    have whole : memory.classes = classify cursor :: frames cursor.ancestors :=
      classes.trans (frames_class isClass _)
    refine ⟨whole, ?_⟩
    rw [(turning isClass).2 rfl, popClass, whole]
    rfl
  finished last := by rw [classes, last, openAt]
  enclosing other owner enclosing := by
    rw [classes, openAt_other member other]
    exact frames_enclosing enclosing
  marked other mark := by
    rw [classes, openAt_other member other]
    exact frames_inside _ mark

end Calling

/-- A rule that keeps the open classes is, before the tour, a listener without an open class. -/
theorem start_tracking {start : Context → Setup (Memory α)} {engine : Engine} {place : Nat}
    {rule : Rule} {severity : Severity}
    (registered : engine.rules[place]? = some ⟨rule, severity, ⟨Memory α, start⟩⟩)
    {context : Context} (starts : Starts onEnter (start context)) :
    ∃ reporter handlers listener, Serves reporter handlers (start context).handlers ∧
      (engine.start context).listeners[place]? = some listener ∧
      Tracking reporter handlers [] listener := by
  let active : ActiveRule := ⟨rule, severity, ⟨Memory α, start⟩⟩
  have sound : setupFault? (active.reporter context.file) (active.checker.start context) =
      none := by
    change (Option.or _ _) = none
    rw [starts.idle, starts.tracks.sound]
    rfl
  obtain ⟨handlers, started, served⟩ := start_of_sound sound
  refine ⟨active.reporter context.file, handlers, _, fun _ _ => served, ?_, _, true, rfl,
    fun _ => starts.closed⟩
  rw [start_listeners, List.getElem?_map, registered, Option.map_some, started]

/-- A handler that is due is called, as long as the rule has not failed. -/
theorem calls_of_due {start : Context → Setup (Memory α)}
    {onEnter : Context → Cursor → ClassFrame → Memory α → List Act}
    (keeper : ClassKeeper start onEnter) {engine : Engine} {place : Nat} {rule : Rule}
    {severity : Severity}
    (registered : engine.rules[place]? = some ⟨rule, severity, ⟨Memory α, start⟩⟩)
    {context : Context} {passed later : List (Moment × Cursor)} {moment : Moment}
    {cursor : Cursor} (turn : turns context.root = passed ++ (moment, cursor) :: later)
    (heard : ((runAfter engine context passed).listeners[place]?).map Listener.enabled = some true)
    {event : String} {handler : Handler (Memory α)}
    (alone : due (start context).handlers moment cursor = [⟨event, handler, cursor⟩]) :
    ∃ memory, Calls engine context place moment cursor handler memory := by
  have starts := keeper.starts context
  obtain ⟨reporter, handlers, listener, serves, found, tracking⟩ := start_tracking registered starts
  obtain ⟨_, there, memory, enabled, rfl, _⟩ :=
    run_tracking starts.tracks serves found tracking passed
  cases enabled with
  | false =>
    rw [runAfter, there] at heard
    cases heard
  | true =>
    have called := (serves memory true moment cursor).trans alone
    obtain ⟨⟨name, served⟩, concerned, same⟩ := List.map_eq_singleton_iff.mp called
    cases same
    exact ⟨memory, .intro passed later reporter memory handlers true name [] [] .silence turn there
      concerned rfl⟩

/-- Whenever a rule that keeps the open classes calls a handler in the run of an engine, its memory
has the classes around the node, and after the tour it has none. -/
theorem classes_follow_tree {start : Context → Setup (Memory α)}
    {onEnter : Context → Cursor → ClassFrame → Memory α → List Act}
    (keeper : ClassKeeper start onEnter) (engine : Engine) (place : Nat) (rule : Rule)
    (severity : Severity)
    (registered : engine.rules[place]? = some ⟨rule, severity, ⟨Memory α, start⟩⟩)
    (context : Context) :
    (∀ moment cursor handler memory,
      Calls engine context place moment cursor handler memory →
        Scoped (onEnter context) moment cursor handler memory) ∧
      ∀ reporter memory handlers,
        (runAfter engine context (turns context.root)).listeners[place]? =
            some ⟨reporter, Memory α, memory, handlers, true⟩ →
          memory.classes = [] := by
  have starts := keeper.starts context
  obtain ⟨reporter, handlers, listener, serves, found, tracking⟩ := start_tracking registered starts
  have run := run_tracking starts.tracks serves found tracking
  constructor
  · rintro moment cursor handler memory
      ⟨passed, later, _, first, _, enabled, event, before, behind, echo, turn, listening,
        concerned, reached⟩
    obtain ⟨held, there, state, still, rfl, classes⟩ := run passed
    cases Option.some.inj (listening.symm.trans there)
    have split : due (start context).handlers moment cursor = _ :=
      (serves first enabled moment cursor).symm.trans (congrArg (List.map _) concerned)
    rw [open_at_turn turn] at classes
    rw [List.map_append, List.map_cons] at split
    obtain ⟨kept, turning⟩ :=
      classes_at_call starts.tracks classes split (List.foldl_map.trans reached)
    exact scoped_of_classes (turn ▸ List.mem_append_right _ List.mem_cons_self) kept turning
  · intro _ memory _ listening
    obtain ⟨held, there, state, still, rfl, classes⟩ := run (turns context.root)
    cases Option.some.inj (listening.symm.trans there)
    rw [classes rfl, (turns_walk context.root).2]

def method : Node := ⟨"method_definition", 4, ⟨4, 5, by decide⟩, .empty, []⟩

def bodyWith (member : Node) : Node := ⟨"class_body", 3, ⟨3, 6, by decide⟩, .empty, [member]⟩

def innerClass : Node := ⟨"class", 2, ⟨3, 6, by decide⟩, .empty, [bodyWith method]⟩

def outerClass : Node := ⟨"class_declaration", 0, ⟨0, 9, by decide⟩, .empty, [bodyWith innerClass]⟩

def nested : Context :=
  ⟨⟨"a.ts", "class A {}", some outerClass, false⟩, outerClass⟩

def withinInner : List Node :=
  [bodyWith method, innerClass, bodyWith innerClass, outerClass]

def throughClasses : List (Moment × Cursor) :=
  [⟨outerClass, []⟩, ⟨bodyWith innerClass, [outerClass]⟩,
    ⟨innerClass, [bodyWith innerClass, outerClass]⟩,
    ⟨bodyWith method, [innerClass, bodyWith innerClass, outerClass]⟩].flatMap
    fun cursor => [(.enter, cursor), (.select, cursor)]

def injecting : Engine :=
  ⟨[⟨ConstructorInjection.rule, .warn, ConstructorInjection.rule.checker ()⟩]⟩

theorem nested_classes_follow_tree :
    ∃ memory, Calls injecting nested 0 .enter ⟨method, withinInner⟩
        (Handler.stateless ConstructorInjection.check) memory ∧
      memory.classes.map ClassFrame.node? = [some innerClass, some outerClass] := by
  have turn : ∃ later, turns outerClass =
      throughClasses ++ (.enter, ⟨method, withinInner⟩) :: later := by
    rw [turns_eq]
    exact ⟨_, rfl⟩
  have heard : ((runAfter injecting nested throughClasses).listeners[0]?).map Listener.enabled =
      some true := by
    decide +kernel
  have alone : due ((ConstructorInjection.rule.checker ()).start nested).handlers .enter
      ⟨method, withinInner⟩ =
        [⟨"method_definition", Handler.stateless ConstructorInjection.check,
          ⟨method, withinInner⟩⟩] := rfl
  obtain ⟨later, turn⟩ := turn
  obtain ⟨memory, calls⟩ := calls_of_due .constructorInjection rfl turn heard alone
  have inScope :=
    (classes_follow_tree .constructorInjection injecting 0 _ _ rfl nested).1 _ _ _ _ calls
  refine ⟨memory, calls, ?_⟩
  rw [inScope.around (by decide)]
  rfl

end AngularLint.Proofs.ClassFrames
