import AngularLint.Listener

/-! Which handlers of a table a moment concerns, said in terms of the keys: a kind, a kind with the
suffix of leaving, the end of the tour, or a selector, given as such or as a text with a bracket.
A table all of whose keys name events is served accordingly, entry by entry. -/

namespace AngularLint.Proofs.Dispatch

variable {σ : Type}

def calledText (moment : Moment) (node : Node) (text : String) : Option String :=
  match moment with
  | .enter =>
    if text = node.kind ∧ text ≠ endEvent ∧ ¬ exitSuffix.toList <:+ text.toList then some text
    else none
  | .select => none
  | .leave => if text = node.kind ++ exitSuffix then some text else none
  | .finish => if text = endEvent then some text else none

/-- The name under which a selector is called at a moment: on entering a node that satisfies it. -/
def calledSelector (moment : Moment) (node : Node) (selector : Selector) : Option String :=
  if moment = .select ∧ selector.holds node then some selector.shown else none

/-- The name under which a key is called at a moment, if it is called there at all. -/
def called (moment : Moment) (node : Node) : EventKey → Option String
  | .selector selector => calledSelector moment node selector
  | .named text =>
    if '[' ∈ text.toList then
      (Selector.read text).toOption.bind (calledSelector moment node)
    else calledText moment node text

theorem endsWith_iff (text finish : String) :
    Text.endsWith text finish = true ↔ finish.toList <:+ text.toList := by
  simp [Text.endsWith]

theorem append_of_endsWith {text suffix : String} (ends : Text.endsWith text suffix = true) :
    Text.slice text 0 (text.length - suffix.length) ++ suffix = text := by
  obtain ⟨before, same⟩ := (endsWith_iff text suffix).mp ends
  have length : text.length - suffix.length = before.length := by
    rw [← String.length_toList, ← String.length_toList, ← same, List.length_append]
    omega
  apply String.toList_injective
  rw [length, String.toList_append, Text.slice, String.toList_ofList, ← same, List.drop_zero,
    List.take_left]

theorem endsWith_append (start suffix : String) :
    Text.endsWith (start ++ suffix) suffix = true := by
  rw [endsWith_iff, String.toList_append]
  exact List.suffix_append _ _

private theorem select_called (moment : Moment) (node : Node) (selector : Selector) :
    (Event.select selector).nameAt? moment node = calledSelector moment node selector := by
  cases moment <;> simp [Event.nameAt?, calledSelector]

private theorem finish_called (moment : Moment) (node : Node) :
    Event.finish.nameAt? moment node = calledText moment node endEvent := by
  cases moment with
  | enter | select | finish => simp [Event.nameAt?, calledText]
  | leave =>
    -- the name of the end does not end like that of an exit
    have different : endEvent ≠ node.kind ++ exitSuffix := by
      intro same
      have ends := endsWith_append node.kind exitSuffix
      rw [← same] at ends
      exact absurd ends (by decide)
    simp [Event.nameAt?, calledText, different]

private theorem leave_called {text : String} (ends : Text.endsWith text exitSuffix = true)
    (moment : Moment) (node : Node) (unfinished : text ≠ endEvent) :
    (Event.leave (Text.slice text 0 (text.length - exitSuffix.length))).nameAt? moment node =
      calledText moment node text := by
  have whole := append_of_endsWith ends
  cases moment with
  | enter => simp [Event.nameAt?, calledText, (endsWith_iff _ _).mp ends]
  | select => rfl
  | leave =>
    have kind : node.kind = Text.slice text 0 (text.length - exitSuffix.length) ↔
        text = node.kind ++ exitSuffix := by
      rw [← String.append_left_inj exitSuffix, whole, eq_comm]
    simp only [Event.nameAt?, calledText, beq_iff_eq, kind, whole]
  | finish => simp [Event.nameAt?, calledText, unfinished]

private theorem enter_called {text : String} (stays : Text.endsWith text exitSuffix ≠ true)
    (moment : Moment) (node : Node) (unfinished : text ≠ endEvent) :
    (Event.enter text).nameAt? moment node = calledText moment node text := by
  cases moment with
  | enter =>
    have plain : ¬ exitSuffix.toList <:+ text.toList :=
      fun ends => stays ((endsWith_iff _ _).mpr ends)
    by_cases same : text = node.kind
    · subst text
      simp [Event.nameAt?, calledText, unfinished, plain]
    · simp [Event.nameAt?, calledText, same, Ne.symm same]
  | select => rfl
  | leave =>
    have different : text ≠ node.kind ++ exitSuffix := by
      rintro rfl
      exact stays (endsWith_append _ _)
    simp [Event.nameAt?, calledText, different]
  | finish => simp [Event.nameAt?, calledText, unfinished]

/-- An event happens exactly where its key is called, and under the same name. -/
theorem nameAt?_eq_called {key : EventKey} {event : Event} (names : key.event = .ok event)
    (moment : Moment) (node : Node) : event.nameAt? moment node = called moment node key := by
  cases key with
  | selector selector =>
    cases names
    exact select_called moment node selector
  | named text =>
    by_cases bracket : '[' ∈ text.toList
    · simp only [EventKey.event, List.contains_iff_mem, bracket, if_true] at names
      cases read : Selector.read text with
      | error fault => simp [read, Except.map] at names
      | ok selector =>
        simp only [read, Except.map, Except.ok.injEq] at names
        subst event
        simp [called, bracket, read, select_called, Except.toOption]
    · simp only [EventKey.event, List.contains_iff_mem, bracket, if_false, beq_iff_eq] at names
      rw [called, if_neg bracket]
      split at names
      next finishes =>
        cases names
        rw [finishes]
        exact finish_called moment node
      next unfinished =>
        split at names
        next ends =>
          cases names
          exact leave_called ends moment node unfinished
        next stays =>
          cases names
          exact enter_called stays moment node unfinished

/-- Why a key names no event: it is the text of a selector that cannot be read. -/
def keyFault? : EventKey → Option SelectorFault
  | .selector _ => none
  | .named text =>
    if '[' ∈ text.toList then
      match Selector.read text with
      | .ok _ => none
      | .error fault => some fault
    else none

def tableFault? (table : HandlerTable σ) : Option SelectorFault :=
  table.entries.findSome? fun entry => keyFault? entry.1

theorem event_eq_error_iff (key : EventKey) (fault : SelectorFault) :
    key.event = .error fault ↔ keyFault? key = some fault := by
  cases key with
  | selector selector => simp [EventKey.event, keyFault?]
  | named text =>
    by_cases bracket : '[' ∈ text.toList
    · cases read : Selector.read text <;>
        simp [EventKey.event, keyFault?, bracket, read, Except.map]
    · simp only [EventKey.event, keyFault?, List.contains_iff_mem, bracket, if_false, reduceCtorEq,
        iff_false]
      split
      · simp
      · split <;> simp

theorem events_cons (key : EventKey) (handler : Handler σ) (rest : List (EventKey × Handler σ)) :
    Listener.events ⟨(key, handler) :: rest⟩ =
      key.event.bind fun event => (Listener.events ⟨rest⟩).bind fun others =>
        .ok ((event, handler) :: others) := by
  simp only [Listener.events, List.mapM_cons]
  cases key.event <;> rfl

theorem events_eq_error {table : HandlerTable σ} {fault : SelectorFault}
    (found : tableFault? table = some fault) : Listener.events table = .error fault := by
  obtain ⟨entries⟩ := table
  induction entries with
  | nil => cases found
  | cons entry rest ih =>
    obtain ⟨key, handler⟩ := entry
    rw [events_cons]
    cases first : keyFault? key with
    | some other =>
      simp only [tableFault?, List.findSome?_cons, first] at found
      cases found
      rw [(event_eq_error_iff key fault).mpr first]
      rfl
    | none =>
      simp only [tableFault?, List.findSome?_cons, first] at found
      rw [ih found]
      cases named : key.event with
      | error other =>
        rw [(event_eq_error_iff key other).mp named] at first
        cases first
      | ok event => rfl

/-- The handlers that a moment concerns are those of the keys that are called, in order. A table
without a fault has such handlers. -/
theorem events_eq_ok {table : HandlerTable σ} (sound : tableFault? table = none) :
    ∃ handlers, Listener.events table = .ok handlers ∧
      ∀ {β : Type} (f : String → Handler σ → β) (moment : Moment) (node : Node),
        (handlers.filterMap fun entry => (entry.1.nameAt? moment node).map (f · entry.2)) =
          table.entries.filterMap fun entry => (called moment node entry.1).map (f · entry.2) := by
  obtain ⟨entries⟩ := table
  induction entries with
  | nil => exact ⟨[], rfl, fun _ _ _ => rfl⟩
  | cons entry rest ih =>
    obtain ⟨key, handler⟩ := entry
    simp only [tableFault?, List.findSome?_cons] at sound
    split at sound
    · cases sound
    next first =>
      obtain ⟨others, later, served⟩ := ih sound
      cases named : key.event with
      | error fault =>
        rw [(event_eq_error_iff key fault).mp named] at first
        cases first
      | ok event =>
        refine ⟨(event, handler) :: others, ?_, ?_⟩
        · rw [events_cons, named, later]
          rfl
        · intro β f moment node
          simp only [List.filterMap_cons, nameAt?_eq_called named, served]

end AngularLint.Proofs.Dispatch
