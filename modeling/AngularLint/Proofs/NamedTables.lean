import AngularLint.Proofs.OrderedMaps
import AngularLint.Proofs.RuleTrace
import Mathlib.Data.List.Basic

/-! Tables whose handlers are registered by name, without selectors. Each name has one handler, and
at most one handler is called at a moment. -/

namespace AngularLint.Proofs.NamedTables
open Dispatch OrderedMaps RuleTrace

variable {σ : Type} {handlers : List (String × Handler σ)} {moment : Moment} {cursor : Cursor}

/-- No name comes twice, and none is the text of a selector. -/
structure Apart (names : List String) : Prop where
  distinct : names.Nodup
  plain : ∀ name ∈ names, '[' ∉ name.toList

theorem Apart.sublist {names kept : List String} (apart : Apart names)
    (sublist : kept.Sublist names) : Apart kept :=
  ⟨apart.distinct.sublist sublist, fun name member => apart.plain name (sublist.subset member)⟩

theorem entries_ofNamed (apart : Apart (handlers.map Prod.fst)) :
    (HandlerTable.ofNamed handlers).entries =
      handlers.map fun (name, handler) => (.named name, handler) := by
  apply entries_ofList
  rw [List.pairwise_map]
  refine (List.pairwise_map.mp apart.distinct).imp ?_
  intro first second different
  change (second.1 == first.1) = false
  exact beq_eq_false_iff_ne.mpr (Ne.symm different)

theorem tableFault?_ofNamed (apart : Apart (handlers.map Prod.fst)) :
    tableFault? (HandlerTable.ofNamed handlers) = none := by
  rw [tableFault?, entries_ofNamed apart, List.findSome?_eq_none_iff]
  intro entry member
  obtain ⟨named, listed, rfl⟩ := List.mem_map.mp member
  exact if_neg (apart.plain named.1 (List.mem_map_of_mem listed))

theorem due_ofNamed (apart : Apart (handlers.map Prod.fst)) (moment : Moment) (cursor : Cursor) :
    due (.ofNamed handlers) moment cursor =
      handlers.filterMap fun entry =>
        (calledText moment cursor.node entry.1).map fun name => ⟨name, entry.2, cursor⟩ := by
  rw [due, entries_ofNamed apart, List.filterMap_map]
  apply List.filterMap_congr
  intro entry listed
  have plain := apart.plain entry.1 (List.mem_map_of_mem listed)
  simp only [Function.comp, called, if_neg plain]

theorem calledText_self {node : Node} {text name : String}
    (called : calledText moment node text = some name) : name = text := by
  cases moment <;> simp only [calledText, Option.ite_none_right_eq_some, reduceCtorEq,
    Option.some.injEq] at called <;> exact called.2.symm

/-- Two names that are called at the same moment are the same. -/
theorem calledText_unique {node : Node} {first second name other : String}
    (one : calledText moment node first = some name)
    (two : calledText moment node second = some other) : first = second := by
  cases moment <;> simp only [calledText, Option.ite_none_right_eq_some, reduceCtorEq] at one two
  case enter => rw [one.1.1, two.1.1]
  case leave => rw [one.1, two.1]
  case finish => rw [one.1, two.1]

theorem mem_due (apart : Apart (handlers.map Prod.fst)) {call : Call σ}
    (member : call ∈ due (.ofNamed handlers) moment cursor) :
    (call.event, call.handler) ∈ handlers ∧ call.cursor = cursor ∧
      calledText moment cursor.node call.event = some call.event := by
  rw [due_ofNamed apart] at member
  obtain ⟨⟨name, handler⟩, listed, made⟩ := List.mem_filterMap.mp member
  obtain ⟨event, called, rfl⟩ := Option.map_eq_some_iff.mp made
  cases calledText_self called
  exact ⟨listed, rfl, called⟩

/-- A handler that is called is the only one. -/
theorem due_of_mem (apart : Apart (handlers.map Prod.fst)) {name : String} {handler : Handler σ}
    (listed : (name, handler) ∈ handlers)
    (called : calledText moment cursor.node name = some name) :
    due (.ofNamed handlers) moment cursor = [⟨name, handler, cursor⟩] := by
  obtain ⟨before, later, rfl⟩ := List.append_of_mem listed
  have distinct := apart.distinct
  rw [List.map_append, List.map_cons, List.nodup_append] at distinct
  obtain ⟨_, others, disjoint⟩ := distinct
  have silent (entry : String × Handler σ) (different : entry.1 ≠ name) :
      (calledText moment cursor.node entry.1).map
        (fun name => Call.mk name entry.2 cursor) = none := by
    rw [Option.map_eq_none_iff, Option.eq_none_iff_forall_ne_some]
    exact fun other too => different (calledText_unique too called)
  have early : before.filterMap (fun entry => (calledText moment cursor.node entry.1).map
      fun name => Call.mk name entry.2 cursor) = [] := by
    rw [List.filterMap_eq_nil_iff]
    exact fun entry member => silent entry
      (disjoint entry.1 (List.mem_map_of_mem member) name List.mem_cons_self)
  have late : later.filterMap (fun entry => (calledText moment cursor.node entry.1).map
      fun name => Call.mk name entry.2 cursor) = [] := by
    rw [List.filterMap_eq_nil_iff]
    intro entry member
    have inside : entry.1 ∈ later.map Prod.fst := List.mem_map_of_mem member
    exact silent entry fun same => (List.nodup_cons.mp others).1 (same ▸ inside)
  rw [due_ofNamed apart, List.filterMap_append, List.filterMap_cons, early, late]
  simp only [called, Option.map_some, List.nil_append]

end AngularLint.Proofs.NamedTables
