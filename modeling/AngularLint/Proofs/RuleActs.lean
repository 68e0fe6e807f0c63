import AngularLint.Proofs.ClassFrames
import AngularLint.Proofs.FindingOrigin

/-! What all acts of a rule have in common, wherever in a tree a handler answers and whatever the
rule remembers then. Rules that keep the open classes have handlers for that besides their own; of
those it is enough to know what the rule does when a class is entered. -/

namespace AngularLint.Proofs.RuleActs
open AngularLint.Angular ClassFrames Dispatch FindingOrigin NamedTables OrderedMaps

variable {σ α : Type} {holds : Cursor → Act → Prop}

def Answers (holds : Cursor → Act → Prop) (handler : Handler σ) : Prop :=
  ∀ cursor state, ∀ act ∈ (handler cursor state).2, holds cursor act

/-- A rule that starts without acts and answers, at every node and in any state, with such acts. -/
inductive Acts (holds : Cursor → Act → Prop) : {σ : Type} → Setup σ → Prop where
  | each {σ : Type} {setup : Setup σ} (idle : setup.acts = [])
      (sound : tableFault? setup.handlers = none)
      (answers : ∀ entry ∈ setup.handlers.entries, Answers holds entry.2) : Acts holds setup
  | tracking {α : Type} {setup : Setup (Memory α)}
      {onEnter : Cursor → ClassFrame → Memory α → List Act}
      {others : List (String × Handler (Memory α))} (names : List String)
      (starts : Starts onEnter setup)
      (listed : setup.handlers = .ofNamed (trackClasses onEnter ++ others))
      (named : others.map Prod.fst = names) (apart : Apart (classKeys ++ names))
      (entered : ∀ cursor frame memory, ∀ act ∈ onEnter cursor frame memory, holds cursor act)
      (answers : ∀ other ∈ others, Answers holds other.2) : Acts holds setup

theorem handler_mem_ofNamed {handlers : List (String × Handler σ)} {key : EventKey}
    {handler : Handler σ} (registered : (key, handler) ∈ (HandlerTable.ofNamed handlers).entries) :
    ∃ name, (name, handler) ∈ handlers := by
  obtain ⟨given, listed, same⟩ := value_mem_ofList _ registered
  obtain ⟨⟨name, named⟩, member, rfl⟩ := List.mem_map.mp listed
  cases same
  exact ⟨name, member⟩

/-- The handlers that keep the classes report only what the rule does when a class is entered. -/
theorem trackClasses_states {onEnter : Cursor → ClassFrame → Memory α → List Act}
    {entry : String × Handler (Memory α)} (member : entry ∈ trackClasses onEnter)
    {cursor : Cursor} {memory : Memory α} {finding : Finding}
    (stated : .report finding ∈ (entry.2 cursor memory).2) :
    ∃ frame inside, .report finding ∈ onEnter cursor frame inside := by
  rw [trackClasses] at member
  obtain ⟨kind, _, one⟩ := List.mem_flatMap.mp member
  rcases List.mem_cons.mp one with rfl | left
  · exact ⟨_, _, stated⟩
  · rw [List.mem_singleton.mp left] at stated
    simp only [popClass] at stated
    split at stated
    · cases List.mem_singleton.mp stated
    · cases stated

theorem Acts.states {setup : Setup σ} (acts : Acts holds setup) {finding : Finding}
    (stated : States setup finding) : ∃ cursor, holds cursor (.report finding) := by
  cases acts with
  | each idle _ answers =>
    cases stated with
    | atStart stated =>
      rw [idle] at stated
      cases stated
    | inHandler key handler cursor state registered stated =>
      exact ⟨cursor, answers _ registered cursor state _ stated⟩
  | tracking _ starts listed _ _ entered answers =>
    cases stated with
    | atStart stated =>
      rw [starts.idle] at stated
      cases stated
    | inHandler key handler cursor memory registered stated =>
      rw [listed] at registered
      obtain ⟨name, member⟩ := handler_mem_ofNamed registered
      rcases List.mem_append.mp member with tracking | other
      · obtain ⟨frame, inside, stated⟩ := trackClasses_states tracking stated
        exact ⟨cursor, entered cursor frame inside _ stated⟩
      · exact ⟨cursor, answers _ other cursor memory _ stated⟩

theorem acts_ofNamed {state : σ} {handlers : List (String × Handler σ)} (names : List String)
    (named : handlers.map Prod.fst = names) (apart : Apart names)
    (each : ∀ entry ∈ handlers, Answers holds entry.2) :
    Acts holds ⟨[], state, .ofNamed handlers⟩ := by
  refine .each rfl (tableFault?_ofNamed (named ▸ apart)) ?_
  intro entry registered
  obtain ⟨name, member⟩ := handler_mem_ofNamed registered
  exact each _ member

theorem answers_stateless {check : Cursor → σ → List Act}
    (each : ∀ cursor state, ∀ act ∈ check cursor state, holds cursor act) :
    Answers holds (.stateless check) :=
  each

theorem answers_recordImports (source : String) :
    Answers holds (recordImports source : Handler (Memory α)) := by
  intro cursor memory act member
  cases member

end AngularLint.Proofs.RuleActs
