import AngularLint.Cursor
import AngularLint.Diagnostic
import AngularLint.Fault
import AngularLint.Options
import AngularLint.Rule.Imports

/-! Rules as state machines. A rule sets itself up for a file and names the events that it listens
to; a handler gets the node of the event and the rule's state, and answers with a new state and
what it wants done: findings to report, or a failure. Acts behind a failure are never carried
out. -/

namespace AngularLint

structure Finding where
  span : Span
  messageId : String
  data : OrderedMap String String
  edits : Option (List Edit)
deriving DecidableEq, Repr

inductive Act where
  | report (finding : Finding)
  | fail (fault : Fault)
deriving DecidableEq, Repr

/-- A finding without a fix. -/
def Act.note (span : Span) (messageId : String) (data : List (String × String)) : Act :=
  .report ⟨span, messageId, .ofList data, none⟩

/-- A finding that one edit repairs. -/
def Act.repair (span : Span) (messageId : String) (data : List (String × String)) (edit : Edit) :
    Act :=
  .report ⟨span, messageId, .ofList data, some [edit]⟩

abbrev Handler (σ : Type) := Cursor → σ → σ × List Act

/-- The name of an event: a text, or a selector that nodes have to satisfy. -/
inductive EventKey where
  | named (text : String)
  | selector (selector : Selector)

/-- A text and a selector never name the same event; selectors are compared by value. -/
def EventKey.same : EventKey → EventKey → Bool
  | .named a, .named b => a == b
  | .selector a, .selector b => a.same b
  | _, _ => false

instance : BEq EventKey :=
  ⟨EventKey.same⟩

abbrev HandlerTable (σ : Type) := OrderedMap EventKey (Handler σ)

/-- The event after the whole tree has been visited. -/
def endEvent : String := "traversal:end"

/-- What follows a kind in the name of the event of leaving a node. -/
def exitSuffix : String := ":exit"

inductive Event where
  | enter (kind : String)
  | leave (kind : String)
  | select (selector : Selector)
  | finish

/-- The event that a key names. A text with a bracket in it is a selector. -/
def EventKey.event : EventKey → Except SelectorFault Event
  | .selector wanted => .ok (.select wanted)
  | .named text =>
    if text.toList.contains '[' then (Selector.read text).map .select
    else if text == endEvent then .ok .finish
    else if Text.endsWith text exitSuffix then
      .ok (.leave (Text.slice text 0 (text.length - exitSuffix.length)))
    else .ok (.enter text)

structure Context where
  file : SourceFile
  root : Node

/-- How a rule starts: acts at once, a first state, and handlers. -/
structure Setup (σ : Type) where
  acts : List Act
  state : σ
  handlers : HandlerTable σ

/-- A rule whose options are settled. -/
structure Checker where
  State : Type
  start : Context → Setup State

structure Rule where
  id : String
  description : String
  severity : Severity
  fixable : Bool
  messages : OrderedMap String String
  Settings : Type
  schema : OptionSchema Settings
  checker : Settings → Checker

structure ClassFrame where
  className : Option String
  marks : List String
  node? : Option Node

/-- The open classes, the innermost first. -/
abbrev ClassStack := List ClassFrame

def ClassStack.inside (stack : ClassStack) (mark : String) : Bool :=
  stack.head?.any fun frame => frame.marks.contains mark

/-- A state for rules that follow imports and classes, and may keep something of their own. -/
structure Memory (α : Type) where
  imports : ImportTable
  classes : ClassStack
  own : α

def Memory.fresh {α : Type} (own : α) : Memory α :=
  ⟨.empty, [], own⟩

def recordImports {α : Type} (source : String) : Handler (Memory α) :=
  fun cursor memory => ({ memory with imports := memory.imports.record source cursor.node }, [])

def Handler.stateless {σ : Type} (check : Cursor → σ → List Act) : Handler σ :=
  fun cursor state => (state, check cursor state)

def HandlerTable.ofNamed {σ : Type} (handlers : List (String × Handler σ)) : HandlerTable σ :=
  .ofList (handlers.map fun (name, handler) => (.named name, handler))

end AngularLint
