import AngularLint.Proofs.RuleTrace
import Mathlib.Data.List.Flatten

/-! The calls of all rules together. A run keeps a journal of the calls that it makes, each with the
place of its rule in the order of registration. Every rule finds its own trace in the journal, the
order of the journal is the order of the recursion on the tree, and the report holds what the calls
brought and nothing else. -/

namespace AngularLint.Proofs.EngineTrace
open RuleTrace Tour

universe u

structure Due where
  place : Nat
  State : Type
  call : Call State

/-- A call that has been made, and the place of the rule that made it. -/
structure Entry where
  place : Nat
  State : Type
  made : Made State

def Entry.due (entry : Entry) : Due :=
  ⟨entry.place, entry.State, entry.made.call⟩

def dueToAll (engine : Engine) (context : Context) (moment : Moment) (cursor : Cursor) : List Due :=
  engine.rules.zipIdx.flatMap fun (active, place) =>
    (due (active.checker.start context).handlers moment cursor).map
      (Due.mk place active.checker.State)

/-- All calls due to all rules: at each node those of all rules on entering it, then those of all
rules for their selectors, then those of its children, then those of all rules on leaving it; and
last, on the root, those of all rules at the end. -/
def referenceOfAll (engine : Engine) (context : Context) : List Due :=
  traverse
      (fun cursor =>
        dueToAll engine context .enter cursor ++ dueToAll engine context .select cursor)
      (dueToAll engine context .leave) [] context.root ++
    dueToAll engine context .finish (.ofRoot context.root)

def madeByAll (listeners : List Listener) (moment : Moment) (cursor : Cursor) : List Entry :=
  listeners.zipIdx.flatMap fun (listener, place) =>
    (madeBy listener moment cursor).map (Entry.mk place listener.State)

def journalFrom : Run → List (Moment × Cursor) → List Entry
  | _, [] => []
  | run, (moment, cursor) :: rest =>
    madeByAll run.listeners moment cursor ++ journalFrom (run.hear moment cursor) rest

/-- The calls that an engine makes on a file. -/
def journal (engine : Engine) (context : Context) : List Entry :=
  journalFrom (engine.start context) (turns context.root)

theorem hearAll_eq (moment : Moment) (cursor : Cursor) (listeners : List Listener) :
    Listener.hearAll moment cursor listeners =
      (listeners.map fun listener => (listener.hear moment cursor).1,
        joined (listeners.map fun listener => (listener.hear moment cursor).2)) := by
  induction listeners with
  | nil => rfl
  | cons first rest ih => simp only [Listener.hearAll, ih, List.map_cons, joined_cons]

theorem hear_listeners (run : Run) (moment : Moment) (cursor : Cursor) :
    (run.hear moment cursor).listeners =
      run.listeners.map fun listener => (listener.hear moment cursor).1 := by
  simp only [Run.hear, hearAll_eq]

theorem hear_echo (run : Run) (moment : Moment) (cursor : Cursor) :
    (run.hear moment cursor).echo =
      run.echo.append (joined ((madeByAll run.listeners moment cursor).map (·.made.echo))) := by
  have listening (listeners : List Listener) (place : Nat) :
      joined (listeners.map fun listener => (listener.hear moment cursor).2) =
        joined (((listeners.zipIdx place).flatMap fun (listener, place) =>
          (madeBy listener moment cursor).map (Entry.mk place listener.State)).map
            (·.made.echo)) := by
    induction listeners generalizing place with
    | nil => rfl
    | cons first rest ih =>
      rw [List.map_cons, joined_cons, ih (place + 1), RuleTrace.hear_eq]
      simp only [List.zipIdx_cons, List.flatMap_cons, List.map_append, joined_append, List.map_map]
      rfl
  simp only [Run.hear, hearAll_eq, madeByAll, listening run.listeners 0]

theorem foldl_hear_echo (run : Run) (turns : List (Moment × Cursor)) :
    (turns.foldl (fun run turn => run.hear turn.1 turn.2) run).echo =
      run.echo.append (joined ((journalFrom run turns).map (·.made.echo))) := by
  induction turns generalizing run with
  | nil => simp [journalFrom]
  | cons turn rest ih =>
    rw [List.foldl_cons, ih, hear_echo, journalFrom, List.map_append, joined_append, append_assoc]

private theorem filter_place {α β : Type u} (f : Nat → α → List β) (placeOf : β → Nat)
    (tagged : ∀ place item, ∀ result ∈ f place item, placeOf result = place)
    (items : List α) (start place : Nat) :
    ((items.zipIdx start).flatMap fun (item, place) => f place item).filter
        (fun result => placeOf result == start + place) =
      (items[place]?.map (f (start + place))).getD [] := by
  induction items generalizing start place with
  | nil => rfl
  | cons item rest ih =>
    rw [List.zipIdx_cons, List.flatMap_cons, List.filter_append]
    cases place with
    | zero =>
      have own : (f start item).filter (fun result => placeOf result == start + 0) =
          f start item := by
        rw [List.filter_eq_self]
        intro result member
        simp [tagged start item result member]
      have others : ((rest.zipIdx (start + 1)).flatMap fun (item, place) => f place item).filter
          (fun result => placeOf result == start + 0) = [] := by
        rw [List.filter_eq_nil_iff]
        intro result member
        obtain ⟨⟨later, position⟩, inside, member⟩ := List.mem_flatMap.mp member
        have bound := List.le_snd_of_mem_zipIdx inside
        have same := tagged position later result member
        simp only [beq_iff_eq]
        omega
      rw [own, others]
      simp
    | succ place =>
      have own : (f start item).filter (fun result => placeOf result == start + (place + 1)) =
          [] := by
        rw [List.filter_eq_nil_iff]
        intro result member
        have same := tagged start item result member
        simp only [beq_iff_eq]
        omega
      have later := ih (start + 1) place
      rw [show start + 1 + place = start + (place + 1) by omega] at later
      rw [own, later, List.getElem?_cons_succ, List.nil_append]

theorem madeByAll_filter {listeners : List Listener} {place : Nat} {listener : Listener}
    (found : listeners[place]? = some listener) (moment : Moment) (cursor : Cursor) :
    (madeByAll listeners moment cursor).filter (·.place == place) =
      (madeBy listener moment cursor).map (Entry.mk place listener.State) := by
  have own := filter_place
    (fun place listener => (madeBy listener moment cursor).map (Entry.mk place listener.State))
    Entry.place (by
      intro place listener entry member
      obtain ⟨made, _, rfl⟩ := List.mem_map.mp member
      rfl) listeners 0 place
  simpa [madeByAll, found] using own

/-- Every rule finds its own calls in the journal. -/
theorem journalFrom_filter {run : Run} {place : Nat} {listener : Listener}
    (found : run.listeners[place]? = some listener) (turns : List (Moment × Cursor)) :
    (journalFrom run turns).filter (·.place == place) =
      (madeAlong listener turns).map (Entry.mk place listener.State) := by
  induction turns generalizing run listener with
  | nil =>
    simp only [journalFrom, madeAlong, List.flatMap_nil, cut]
    split <;> rfl
  | cons turn rest ih =>
    obtain ⟨moment, cursor⟩ := turn
    have next : (run.hear moment cursor).listeners[place]? =
        some (listener.hear moment cursor).1 := by
      rw [hear_listeners, List.getElem?_map, found]
      rfl
    rw [journalFrom, List.filter_append, madeByAll_filter found, ih next, RuleTrace.hear_eq,
      madeAlong_cons, List.map_append]

def dueToListeners (listeners : List Listener) (moment : Moment) (cursor : Cursor) : List Due :=
  listeners.zipIdx.flatMap fun (listener, place) =>
    (dueTo listener moment cursor).map (Due.mk place listener.State)

theorem dueToListeners_hear (run : Run) (moment : Moment) (cursor : Cursor) :
    dueToListeners (run.hear moment cursor).listeners = dueToListeners run.listeners := by
  funext later there
  simp only [dueToListeners, hear_listeners, List.zipIdx_map, List.flatMap_map, RuleTrace.hear_eq]
  rfl

theorem madeByAll_sublist (listeners : List Listener) (moment : Moment) (cursor : Cursor) :
    ((madeByAll listeners moment cursor).map Entry.due).Sublist
      (dueToListeners listeners moment cursor) := by
  rw [madeByAll, List.map_flatMap]
  apply List.Sublist.flatMap_right
  rintro ⟨listener, place⟩ _
  have own := (madeBy_begins listener moment cursor).sublist.map (Due.mk place listener.State)
  rw [List.map_map] at own ⊢
  exact own

/-- The journal keeps to the order in which calls are due. -/
theorem journalFrom_sublist (run : Run) (turns : List (Moment × Cursor)) :
    ((journalFrom run turns).map Entry.due).Sublist
      (turns.flatMap fun turn => dueToListeners run.listeners turn.1 turn.2) := by
  induction turns generalizing run with
  | nil => exact .slnil
  | cons turn rest ih =>
    obtain ⟨moment, cursor⟩ := turn
    have later := ih (run.hear moment cursor)
    rw [dueToListeners_hear] at later
    rw [journalFrom, List.map_append, List.flatMap_cons]
    exact (madeByAll_sublist run.listeners moment cursor).append later

theorem start_listeners (engine : Engine) (context : Context) :
    (engine.start context).listeners =
      engine.rules.map fun active =>
        (Listener.start (active.reporter context.file) active.checker context).1 := by
  simp only [Engine.start, List.map_map]
  rfl

theorem start_echo (engine : Engine) (context : Context) :
    (engine.start context).echo =
      joined (engine.rules.map fun active =>
        opening (active.reporter context.file) (active.checker.start context)) := by
  have folded (echoes : List Echo) (echo : Echo) :
      echoes.foldl Echo.append echo = echo.append (joined echoes) := by
    induction echoes generalizing echo with
    | nil => simp
    | cons first rest ih => rw [List.foldl_cons, ih, joined_cons, append_assoc]
  simp only [Engine.start, folded, silence_append, List.map_map]
  congr 1
  apply List.map_congr_left
  intro active _
  exact start_opening (active.reporter context.file) active.checker context

theorem dueToListeners_start (engine : Engine) (context : Context) (moment : Moment)
    (cursor : Cursor) :
    (dueToListeners (engine.start context).listeners moment cursor).Sublist
      (dueToAll engine context moment cursor) := by
  simp only [dueToListeners, dueToAll, start_listeners, List.zipIdx_map, List.flatMap_map]
  apply List.Sublist.flatMap_right
  rintro ⟨active, place⟩ _
  simp only [Prod.map]
  cases prepared : setupFault? (active.reporter context.file) (active.checker.start context) with
  | some fault =>
    rw [start_of_fault prepared]
    exact List.nil_sublist _
  | none =>
    obtain ⟨handlers, started, served⟩ := start_of_sound prepared
    rw [started, served]
    exact List.Sublist.refl _

/-- The calls of a rule in the journal are its trace. -/
theorem journal_filter (engine : Engine) (context : Context) (place : Fin engine.rules.length) :
    (journal engine context).filter (·.place == place.val) =
      (trace ((engine.rules.get place).reporter context.file)
        ((engine.rules.get place).checker.start context) context.root).map
          (Entry.mk place (engine.rules.get place).checker.State) := by
  have found : (engine.start context).listeners[place.val]? =
      some (Listener.start ((engine.rules.get place).reporter context.file)
        (engine.rules.get place).checker context).1 := by
    rw [start_listeners, List.getElem?_map, List.getElem?_eq_getElem place.isLt]
    rfl
  rw [journal, journalFrom_filter found]
  cases prepared : setupFault? ((engine.rules.get place).reporter context.file)
      ((engine.rules.get place).checker.start context) with
  | some fault =>
    rw [start_of_fault prepared, trace, prepared]
    rfl
  | none =>
    obtain ⟨handlers, started, served⟩ := start_of_sound prepared
    rw [started, trace, prepared]
    simp only [madeAlong, if_true, served, reference, turns_flatMap]

theorem run_eq (engine : Engine) {file : SourceFile} {root : Node}
    (parsed : file.root? = some root) :
    engine.run file =
      let finished := (turns root).foldl (fun run turn => run.hear turn.1 turn.2)
        (engine.start ⟨file, root⟩)
      ⟨file.filename, finished.echo.diagnostics, finished.echo.faults⟩ := by
  have touring (visits : List Visit) (run : Run) :
      visits.foldl Run.visit run =
        (visits.flatMap moments).foldl (fun run turn => run.hear turn.1 turn.2) run := by
    induction visits generalizing run with
    | nil => rfl
    | cons visit rest ih =>
      rw [List.foldl_cons, ih, List.flatMap_cons, List.foldl_append]
      cases visit <;> rfl
  simp only [Engine.run, parsed, touring, turns, List.foldl_append, List.foldl_cons,
    List.foldl_nil]

/-- The report holds what the rules bring before the tour, and then what their calls bring. -/
theorem run_report (engine : Engine) {file : SourceFile} {root : Node}
    (parsed : file.root? = some root) :
    (engine.run file).diagnostics =
        (engine.rules.flatMap fun active =>
          (opening (active.reporter file)
            (active.checker.start ⟨file, root⟩)).diagnostics) ++
          (journal engine ⟨file, root⟩).flatMap (·.made.echo.diagnostics) ∧
      (engine.run file).faults =
        (engine.rules.flatMap fun active =>
          (opening (active.reporter file)
            (active.checker.start ⟨file, root⟩)).faults) ++
          (journal engine ⟨file, root⟩).flatMap (·.made.echo.faults) := by
  rw [run_eq engine parsed]
  simp only [foldl_hear_echo, start_echo, journal]
  simp only [joined, Echo.append, List.flatMap_map, and_self]

/-- The run of an engine over a file, against the recursion on its tree. The calls that a rule makes
are those of its reference, up to and with the first that fails. All calls together keep to the
order of the recursion, in which at a node all rules come first for entering and then, once more
from the first rule on, for their selectors. A rule leaves one fault if it cannot set itself up or
one of its calls fails, and none otherwise. The report holds what the rules bring when they set
themselves up, then what each call brings. -/
theorem run_follows_recursion (engine : Engine) (filename text : String) (root : Node)
    (hasErrors : Bool) :
    let file : SourceFile := ⟨filename, text, some root, hasErrors⟩
    let context : Context := ⟨file, root⟩
    let calls := journal engine context
    (∀ place : Fin engine.rules.length,
      let active := engine.rules.get place
      let reporter := active.reporter context.file
      let setup := active.checker.start context
      calls.filter (·.place == place.val) =
          (trace reporter setup root).map (Entry.mk place active.checker.State) ∧
        Ending reporter setup root
          ((opening reporter setup).faults ++
            (calls.filter (·.place == place.val)).flatMap (·.made.echo.faults))) ∧
      (calls.map Entry.due).Sublist (referenceOfAll engine context) ∧
      (engine.run file).diagnostics =
        (engine.rules.flatMap fun active =>
          (opening (active.reporter context.file) (active.checker.start context)).diagnostics) ++
          calls.flatMap (·.made.echo.diagnostics) ∧
      (engine.run file).faults =
        (engine.rules.flatMap fun active =>
          (opening (active.reporter context.file) (active.checker.start context)).faults) ++
          calls.flatMap (·.made.echo.faults) := by
  intro file context calls
  refine ⟨?_, ?_, run_report engine rfl⟩
  · intro place active reporter setup
    have own := journal_filter engine context place
    refine ⟨own, ?_⟩
    rw [own, List.flatMap_map]
    exact ending reporter setup root
  · rw [referenceOfAll, ← turns_flatMap (fun turn => dueToAll engine context turn.1 turn.2)]
    apply (journalFrom_sublist (engine.start context) (turns root)).trans
    apply List.Sublist.flatMap_right
    rintro ⟨moment, cursor⟩ _
    exact dueToListeners_start engine context moment cursor

end AngularLint.Proofs.EngineTrace
