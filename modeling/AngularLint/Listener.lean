import AngularLint.Reporter

/-! A rule at work on a file. It hears of every moment of the tour until it fails; what it does
shows in the report, and nothing of it reaches another rule. -/

namespace AngularLint

structure Echo where
  diagnostics : List Diagnostic
  faults : List RuleFault

def Echo.silence : Echo :=
  ⟨[], []⟩

def Echo.append (first second : Echo) : Echo :=
  ⟨first.diagnostics ++ second.diagnostics, first.faults ++ second.faults⟩

/-- A moment at which handlers may be called. Entering a node has two: one for the handlers of its
kind, and after them one for those with a selector. -/
inductive Moment where
  | enter
  | select
  | leave
  | finish
deriving DecidableEq, Repr

def Event.nameAt? (event : Event) (moment : Moment) (node : Node) : Option String :=
  match moment, event with
  | .enter, .enter kind => if node.kind == kind then some kind else none
  | .leave, .leave kind => if node.kind == kind then some (kind ++ exitSuffix) else none
  | .select, .select selector => if selector.holds node then some selector.shown else none
  | .finish, .finish => some endEvent
  | _, _ => none

/-- How far a rule is while its handlers are called: its state, whether it is still heard, and what
it has brought. -/
structure Progress (σ : Type) where
  state : σ
  enabled : Bool
  echo : Echo

/-- Calls one handler, unless the rule has failed. -/
def Progress.call {σ : Type} (reporter : Reporter) (cursor : Cursor) (progress : Progress σ)
    (called : String × Handler σ) : Progress σ :=
  if progress.enabled then
    let (state, acts) := called.2 cursor progress.state
    let (diagnostics, fault) := reporter.perform acts
    let faults := fault.toList.map fun fault =>
      ⟨reporter.rule, called.1, some cursor.node.kind, some cursor.node.span, fault.shown⟩
    ⟨state, fault.isNone, progress.echo.append ⟨diagnostics, faults⟩⟩
  else progress

structure Listener where
  reporter : Reporter
  State : Type
  state : State
  handlers : List (Event × Handler State)
  enabled : Bool

namespace Listener

def concerned (listener : Listener) (moment : Moment) (node : Node) :
    List (String × Handler listener.State) :=
  listener.handlers.filterMap fun (event, handler) =>
    (event.nameAt? moment node).map fun name => (name, handler)

def hear (moment : Moment) (cursor : Cursor) (listener : Listener) : Listener × Echo :=
  let done := (listener.concerned moment cursor.node).foldl
    (Progress.call listener.reporter cursor) ⟨listener.state, listener.enabled, .silence⟩
  ({ listener with state := done.state, enabled := done.enabled }, done.echo)

def events {σ : Type} (table : HandlerTable σ) : Except SelectorFault (List (Event × Handler σ)) :=
  table.entries.mapM fun (key, handler) => key.event.map fun event => (event, handler)

def startFault (reporter : Reporter) (fault : Fault) : RuleFault :=
  ⟨reporter.rule, "create", none, none, fault.shown⟩

/-- Sets a rule up for a file. A rule that fails here, or names an event that is none, hears of
nothing. -/
def start (reporter : Reporter) (checker : Checker) (context : Context) : Listener × Echo :=
  let setup := checker.start context
  let (diagnostics, fault) := reporter.perform setup.acts
  let failed (fault : Fault) : Listener × Echo :=
    (⟨reporter, checker.State, setup.state, [], false⟩,
      ⟨diagnostics, [startFault reporter fault]⟩)
  match fault with
  | some fault => failed fault
  | none =>
    match events setup.handlers with
    | .error fault => failed (.selector fault)
    | .ok handlers =>
      (⟨reporter, checker.State, setup.state, handlers, true⟩, ⟨diagnostics, []⟩)

def hearAll (moment : Moment) (cursor : Cursor) : List Listener → List Listener × Echo
  | [] => ([], .silence)
  | first :: rest =>
    let (first, echo) := first.hear moment cursor
    let (rest, echoes) := hearAll moment cursor rest
    (first :: rest, echo.append echoes)

end Listener

end AngularLint
