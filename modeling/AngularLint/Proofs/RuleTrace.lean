import AngularLint.Engine
import AngularLint.Proofs.Dispatch
import AngularLint.Proofs.Tour

/-! One rule on its way through a file. The tree and the rule's table say, by recursion, which calls
of handlers are due. The rule makes them one after another, up to and with the first that fails.
The listener of the rule makes exactly these calls, whatever moments it hears of in between. -/

namespace AngularLint.Proofs.RuleTrace
open Dispatch Tour

universe u

variable {σ : Type}

/-- A call of a handler: the name of the event, the handler, and where it happens. -/
structure Call (σ : Type) where
  event : String
  handler : Handler σ
  cursor : Cursor

structure Made (σ : Type) where
  call : Call σ
  echo : Echo

def due (table : HandlerTable σ) (moment : Moment) (cursor : Cursor) : List (Call σ) :=
  table.entries.filterMap fun entry =>
    (called moment cursor.node entry.1).map fun name => ⟨name, entry.2, cursor⟩

/-- All calls that a table asks for: at each node those on entering it and those of the selectors
that it satisfies, then those of its children, then those on leaving it; and last, on the root,
those at the end. -/
def reference (table : HandlerTable σ) (root : Node) : List (Call σ) :=
  traverse (fun cursor => due table .enter cursor ++ due table .select cursor) (due table .leave) []
      root ++
    due table .finish (.ofRoot root)

def Call.failure (call : Call σ) (reporter : Reporter) (fault : Fault) : RuleFault :=
  ⟨reporter.rule, call.event, some call.cursor.node.kind, some call.cursor.node.span, fault.shown⟩

/-- Makes calls one after another from a state, up to and with the first that fails. -/
def cut (reporter : Reporter) : σ → List (Call σ) → List (Made σ)
  | _, [] => []
  | state, call :: rest =>
    let (next, acts) := call.handler call.cursor state
    match reporter.perform acts with
    | (diagnostics, some fault) => [⟨call, diagnostics, [call.failure reporter fault]⟩]
    | (diagnostics, none) => ⟨call, diagnostics, []⟩ :: cut reporter next rest

theorem cut_failed {reporter : Reporter} {state : σ} {call : Call σ} (rest : List (Call σ))
    {diagnostics : List Diagnostic} {fault : Fault}
    (performed : reporter.perform (call.handler call.cursor state).2 = (diagnostics, some fault)) :
    cut reporter state (call :: rest) = [⟨call, diagnostics, [call.failure reporter fault]⟩] := by
  simp only [cut, performed]

theorem cut_passed {reporter : Reporter} {state : σ} {call : Call σ} (rest : List (Call σ))
    {diagnostics : List Diagnostic}
    (performed : reporter.perform (call.handler call.cursor state).2 = (diagnostics, none)) :
    cut reporter state (call :: rest) =
      ⟨call, diagnostics, []⟩ :: cut reporter (call.handler call.cursor state).1 rest := by
  simp only [cut, performed]

/-- Why a rule cannot set itself up: it fails at once, or one of its keys names no event. -/
def setupFault? (reporter : Reporter) (setup : Setup σ) : Option Fault :=
  (reporter.perform setup.acts).2.or ((tableFault? setup.handlers).map .selector)

def opening (reporter : Reporter) (setup : Setup σ) : Echo :=
  ⟨(reporter.perform setup.acts).1,
    (setupFault? reporter setup).toList.map fun fault =>
      ⟨reporter.rule, "create", none, none, fault.shown⟩⟩

/-- The calls that a rule makes on a tree; none if it cannot set itself up. -/
def trace (reporter : Reporter) (setup : Setup σ) (root : Node) : List (Made σ) :=
  match setupFault? reporter setup with
  | some _ => []
  | none => cut reporter setup.state (reference setup.handlers root)

def joined (echoes : List Echo) : Echo :=
  ⟨echoes.flatMap Echo.diagnostics, echoes.flatMap Echo.faults⟩

@[simp] theorem append_silence (echo : Echo) : echo.append .silence = echo := by
  simp [Echo.append, Echo.silence]

@[simp] theorem silence_append (echo : Echo) : Echo.append .silence echo = echo := by
  simp [Echo.append, Echo.silence]

theorem append_assoc (first second third : Echo) :
    (first.append second).append third = first.append (second.append third) := by
  simp [Echo.append]

@[simp] theorem joined_nil : joined [] = .silence :=
  rfl

theorem joined_cons (echo : Echo) (rest : List Echo) :
    joined (echo :: rest) = echo.append (joined rest) := by
  simp [joined, Echo.append]

theorem joined_append (first second : List Echo) :
    joined (first ++ second) = (joined first).append (joined second) := by
  simp [joined, Echo.append]

def advance (reporter : Reporter) (progress : Progress σ) (call : Call σ) : Progress σ :=
  progress.call reporter call.cursor (call.event, call.handler)

/-- The calls that a listener makes of those that are due: a handler is called as long as the rule
is enabled, and what it brings is what it adds to an empty echo. -/
def madeFrom (reporter : Reporter) (progress : Progress σ) : List (Call σ) → List (Made σ)
  | [] => []
  | call :: rest =>
    let later := madeFrom reporter (advance reporter progress call) rest
    if progress.enabled then
      ⟨call, (advance reporter { progress with echo := .silence } call).echo⟩ :: later
    else later

theorem advance_disabled (reporter : Reporter) (state : σ) (echo : Echo) (call : Call σ) :
    advance reporter ⟨state, false, echo⟩ call = ⟨state, false, echo⟩ :=
  rfl

theorem advance_enabled (reporter : Reporter) (state : σ) (echo : Echo) (call : Call σ)
    {diagnostics : List Diagnostic} {fault : Option Fault}
    (performed : reporter.perform (call.handler call.cursor state).2 = (diagnostics, fault)) :
    advance reporter ⟨state, true, echo⟩ call =
      ⟨(call.handler call.cursor state).1, fault.isNone,
        echo.append ⟨diagnostics, fault.toList.map (call.failure reporter)⟩⟩ := by
  simp only [advance, Progress.call, if_true, performed]
  rfl

/-- A rule that has failed makes no calls, and any other makes those up to its first failure. -/
theorem madeFrom_eq_cut (reporter : Reporter) (progress : Progress σ) (calls : List (Call σ)) :
    madeFrom reporter progress calls =
      if progress.enabled then cut reporter progress.state calls else [] := by
  induction calls generalizing progress with
  | nil => cases progress.enabled <;> rfl
  | cons call rest ih =>
    obtain ⟨state, enabled, echo⟩ := progress
    cases enabled with
    | false => simp [madeFrom, ih, advance_disabled]
    | true =>
      rcases performed : reporter.perform (call.handler call.cursor state).2 with
        ⟨diagnostics, fault⟩
      cases fault <;>
        simp [madeFrom, ih, advance_enabled reporter state _ call performed, cut, performed]

theorem madeFrom_append (reporter : Reporter) (progress : Progress σ)
    (first second : List (Call σ)) :
    madeFrom reporter progress (first ++ second) =
      madeFrom reporter progress first ++
        madeFrom reporter (first.foldl (advance reporter) progress) second := by
  induction first generalizing progress with
  | nil => rfl
  | cons call rest ih =>
    simp only [List.cons_append, madeFrom, ih, List.foldl_cons]
    split <;> simp

theorem foldl_advance_echo (reporter : Reporter) (progress : Progress σ) (calls : List (Call σ)) :
    (calls.foldl (advance reporter) progress).echo =
      progress.echo.append (joined ((madeFrom reporter progress calls).map Made.echo)) := by
  induction calls generalizing progress with
  | nil => simp [madeFrom]
  | cons call rest ih =>
    obtain ⟨state, enabled, echo⟩ := progress
    rw [List.foldl_cons, ih]
    cases enabled with
    | false => simp [madeFrom, advance_disabled]
    | true =>
      rcases performed : reporter.perform (call.handler call.cursor state).2 with
        ⟨diagnostics, fault⟩
      simp [madeFrom, advance_enabled reporter state _ call performed, joined_cons, append_assoc]

def dueTo (listener : Listener) (moment : Moment) (cursor : Cursor) : List (Call listener.State) :=
  (listener.concerned moment cursor.node).map fun called => ⟨called.1, called.2, cursor⟩

def madeBy (listener : Listener) (moment : Moment) (cursor : Cursor) : List (Made listener.State) :=
  madeFrom listener.reporter ⟨listener.state, listener.enabled, .silence⟩
    (dueTo listener moment cursor)

def madeAlong (listener : Listener) (turns : List (Moment × Cursor)) : List (Made listener.State) :=
  if listener.enabled then
    cut listener.reporter listener.state (turns.flatMap fun turn => dueTo listener turn.1 turn.2)
  else []

def after (listener : Listener) (moment : Moment) (cursor : Cursor) : Progress listener.State :=
  (dueTo listener moment cursor).foldl (advance listener.reporter)
    ⟨listener.state, listener.enabled, .silence⟩

theorem hear_eq (listener : Listener) (moment : Moment) (cursor : Cursor) :
    listener.hear moment cursor =
      ({ listener with
          state := (after listener moment cursor).state
          enabled := (after listener moment cursor).enabled },
        joined ((madeBy listener moment cursor).map Made.echo)) := by
  have echo := foldl_advance_echo listener.reporter ⟨listener.state, listener.enabled, .silence⟩
    (dueTo listener moment cursor)
  rw [silence_append] at echo
  rw [madeBy, ← echo]
  simp only [Listener.hear, after, dueTo, List.foldl_map]
  rfl

/-- A rule makes the calls of a moment, and after them those of the later moments. -/
theorem madeAlong_cons (listener : Listener) (moment : Moment) (cursor : Cursor)
    (turns : List (Moment × Cursor)) :
    madeAlong listener ((moment, cursor) :: turns) =
      madeBy listener moment cursor ++
        madeAlong
          { listener with
            state := (after listener moment cursor).state
            enabled := (after listener moment cursor).enabled } turns := by
  have whole := madeFrom_eq_cut listener.reporter
    ⟨listener.state, listener.enabled, .silence⟩
    (((moment, cursor) :: turns).flatMap fun turn => dueTo listener turn.1 turn.2)
  rw [List.flatMap_cons, madeFrom_append, madeFrom_eq_cut _ (List.foldl _ _ _)] at whole
  exact whole.symm

theorem cut_begins (reporter : Reporter) (state : σ) (calls : List (Call σ)) :
    (cut reporter state calls).map Made.call <+: calls := by
  induction calls generalizing state with
  | nil => exact List.prefix_refl []
  | cons call rest ih =>
    rcases performed : reporter.perform (call.handler call.cursor state).2 with
      ⟨diagnostics, fault⟩
    cases fault with
    | some fault =>
      rw [cut_failed rest performed]
      exact ⟨rest, rfl⟩
    | none =>
      rw [cut_passed rest performed, List.map_cons, List.prefix_cons_inj]
      exact ih _

theorem madeBy_begins (listener : Listener) (moment : Moment) (cursor : Cursor) :
    (madeBy listener moment cursor).map Made.call <+: dueTo listener moment cursor := by
  rw [madeBy, madeFrom_eq_cut]
  split
  · exact cut_begins _ _ _
  · exact List.nil_prefix

def moments : Visit → List (Moment × Cursor)
  | .enter cursor => [(.enter, cursor), (.select, cursor)]
  | .leave cursor => [(.leave, cursor)]

def turns (root : Node) : List (Moment × Cursor) :=
  root.tour.flatMap moments ++ [(.finish, .ofRoot root)]

/-- What happens at the moments of a file, by recursion on the tree. -/
theorem turns_flatMap {α : Type u} (f : Moment × Cursor → List α) (root : Node) :
    (turns root).flatMap f =
      traverse (fun cursor => f (.enter, cursor) ++ f (.select, cursor))
          (fun cursor => f (.leave, cursor)) [] root ++
        f (.finish, .ofRoot root) := by
  rw [turns, List.flatMap_append, tour_flatMap, flatMap_traverse]
  simp only [moments, List.flatMap_cons, List.flatMap_nil, List.append_nil]

theorem start_of_fault {reporter : Reporter} {checker : Checker} {context : Context} {fault : Fault}
    (failed : setupFault? reporter (checker.start context) = some fault) :
    Listener.start reporter checker context =
      (⟨reporter, checker.State, (checker.start context).state, [], false⟩,
        opening reporter (checker.start context)) := by
  simp only [opening, failed]
  simp only [setupFault?] at failed
  rcases performed : reporter.perform (checker.start context).acts with ⟨diagnostics, stop⟩
  rw [performed] at failed
  cases stop with
  | some stop =>
    cases failed
    simp [Listener.start, performed, Listener.startFault]
  | none =>
    obtain ⟨unreadable, found, rfl⟩ := Option.map_eq_some_iff.mp failed
    simp [Listener.start, performed, Listener.startFault, events_eq_error found]

/-- A rule that sets itself up makes the calls of its reference, up to its first failure. -/
theorem start_of_sound {reporter : Reporter} {checker : Checker} {context : Context}
    (sound : setupFault? reporter (checker.start context) = none) :
    ∃ handlers, Listener.start reporter checker context =
        (⟨reporter, checker.State, (checker.start context).state, handlers, true⟩,
          opening reporter (checker.start context)) ∧
      ∀ moment cursor,
        dueTo ⟨reporter, checker.State, (checker.start context).state, handlers, true⟩ moment
          cursor = due (checker.start context).handlers moment cursor := by
  simp only [opening, sound]
  simp only [setupFault?, Option.or_eq_none_iff, Option.map_eq_none_iff] at sound
  rcases performed : reporter.perform (checker.start context).acts with ⟨diagnostics, stop⟩
  rw [performed] at sound
  obtain ⟨rfl, readable⟩ := sound
  obtain ⟨handlers, named, served⟩ := events_eq_ok readable
  refine ⟨handlers, by simp [Listener.start, performed, named], ?_⟩
  intro moment cursor
  have same := served (fun name handler => Call.mk name handler cursor) moment cursor.node
  simp only [dueTo, Listener.concerned, List.map_filterMap, Option.map_map]
  exact same

theorem start_opening (reporter : Reporter) (checker : Checker) (context : Context) :
    (Listener.start reporter checker context).2 = opening reporter (checker.start context) := by
  cases prepared : setupFault? reporter (checker.start context) with
  | some fault => rw [start_of_fault prepared]
  | none =>
    obtain ⟨handlers, started, _⟩ := start_of_sound prepared
    rw [started]

/-- How a rule ends on a tree, with the faults that it leaves: it cannot set itself up and makes no
call; or its last call is the first that fails; or it makes all calls of the reference. -/
inductive Ending (reporter : Reporter) (setup : Setup σ) (root : Node) : List RuleFault → Prop where
  | unprepared (fault : Fault) (failed : setupFault? reporter setup = some fault)
      (idle : trace reporter setup root = []) :
      Ending reporter setup root [⟨reporter.rule, "create", none, none, fault.shown⟩]
  | failed (before : List (Made σ)) (last : Made σ) (fault : Fault)
      (prepared : setupFault? reporter setup = none)
      (calls : trace reporter setup root = before ++ [last])
      (passed : ∀ made ∈ before, made.echo.faults = [])
      (failure : last.echo.faults = [last.call.failure reporter fault]) :
      Ending reporter setup root [last.call.failure reporter fault]
  | complete (prepared : setupFault? reporter setup = none)
      (calls : (trace reporter setup root).map Made.call = reference setup.handlers root)
      (passed : ∀ made ∈ trace reporter setup root, made.echo.faults = []) :
      Ending reporter setup root []

/-- Only the last call can have failed, and if none has then all calls have been made. -/
theorem cut_cases (reporter : Reporter) (state : σ) (calls : List (Call σ)) :
    ((cut reporter state calls).map Made.call = calls ∧
        ∀ made ∈ cut reporter state calls, made.echo.faults = []) ∨
      ∃ before last fault, cut reporter state calls = before ++ [last] ∧
        (∀ made ∈ before, made.echo.faults = []) ∧
        last.echo.faults = [last.call.failure reporter fault] := by
  induction calls generalizing state with
  | nil => exact .inl ⟨rfl, by simp [cut]⟩
  | cons call rest ih =>
    rcases performed : reporter.perform (call.handler call.cursor state).2 with
      ⟨diagnostics, fault⟩
    cases fault with
    | some fault =>
      rw [cut_failed rest performed]
      exact .inr ⟨[], _, fault, rfl, by simp, rfl⟩
    | none =>
      rw [cut_passed rest performed]
      rcases ih (call.handler call.cursor state).1 with
        ⟨all, passed⟩ | ⟨before, last, fault, split, passed, failure⟩
      · left
        refine ⟨by rw [List.map_cons, all], ?_⟩
        intro made member
        rcases List.mem_cons.mp member with rfl | member
        · rfl
        · exact passed made member
      · right
        refine ⟨_ :: before, last, fault, by rw [split, List.cons_append], ?_, failure⟩
        intro made member
        rcases List.mem_cons.mp member with rfl | member
        · rfl
        · exact passed made member

/-- A rule leaves one fault if it cannot set itself up or a call fails, and none otherwise. -/
theorem ending (reporter : Reporter) (setup : Setup σ) (root : Node) :
    Ending reporter setup root
      ((opening reporter setup).faults ++
        (trace reporter setup root).flatMap (·.echo.faults)) := by
  have silent (made : List (Made σ)) (passed : ∀ one ∈ made, one.echo.faults = []) :
      made.flatMap (·.echo.faults) = [] := by
    rw [List.flatMap_eq_nil_iff]
    exact passed
  cases prepared : setupFault? reporter setup with
  | some fault =>
    have idle : trace reporter setup root = [] := by rw [trace, prepared]
    rw [idle]
    simpa [opening, prepared] using Ending.unprepared fault prepared idle
  | none =>
    have calls : trace reporter setup root =
        cut reporter setup.state (reference setup.handlers root) := by rw [trace, prepared]
    rcases cut_cases reporter setup.state (reference setup.handlers root) with
      ⟨all, passed⟩ | ⟨before, last, fault, split, passed, failure⟩
    · rw [← calls] at all passed
      rw [silent _ passed]
      simpa [opening, prepared] using Ending.complete prepared all passed
    · rw [← calls] at split
      have faults : (trace reporter setup root).flatMap (·.echo.faults) =
          [last.call.failure reporter fault] := by
        rw [split, List.flatMap_append, silent before passed, List.flatMap_singleton, failure,
          List.nil_append]
      rw [faults]
      simpa [opening, prepared] using Ending.failed before last fault prepared split passed failure

end AngularLint.Proofs.RuleTrace
