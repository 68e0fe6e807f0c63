import AngularLint.Proofs.Tour
import Mathlib.Data.List.Nodup

/-! Nodes in their places. Below the root each node has its place under a parent that it is a child
of, and when the numbers tell the nodes of a tree apart, under no other. -/

namespace AngularLint.Proofs.Places
open Tour

def places (ancestors : List Node) (node : Node) : List Cursor :=
  traverse (fun cursor => [cursor]) (fun _ => []) ancestors node

def placesAll (ancestors : List Node) (nodes : List Node) : List Cursor :=
  traverseAll (fun cursor => [cursor]) (fun _ => []) ancestors nodes

theorem places_eq (ancestors : List Node) (node : Node) :
    places ancestors node = ⟨node, ancestors⟩ :: placesAll (node :: ancestors) node.children := by
  rw [places, traverse_eq, List.append_nil]
  rfl

theorem placesAll_cons (ancestors : List Node) (node : Node) (rest : List Node) :
    placesAll ancestors (node :: rest) = places ancestors node ++ placesAll ancestors rest := by
  rw [placesAll, traverseAll]
  rfl

theorem mem_placesAll {ancestors nodes : List Node} {cursor : Cursor} :
    cursor ∈ placesAll ancestors nodes ↔ ∃ node ∈ nodes, cursor ∈ places ancestors node := by
  rw [placesAll, traverseAll_eq_flatMap, List.mem_flatMap]
  rfl

theorem self_mem_places (ancestors : List Node) (node : Node) :
    ⟨node, ancestors⟩ ∈ places ancestors node := by
  rw [places_eq]
  exact List.mem_cons_self

theorem cursors_eq (root : Node) : root.cursors = places [] root := by
  rw [Node.cursors, List.filterMap_eq_flatMap_toList, tour_flatMap]
  rfl

mutual

theorem child_mem_places {ancestors : List Node} {node : Node} {cursor : Cursor} {child : Node}
    (member : cursor ∈ places ancestors node) (below : child ∈ cursor.node.children) :
    ⟨child, cursor.node :: cursor.ancestors⟩ ∈ places ancestors node := by
  obtain ⟨kind, number, span, attributes, children⟩ := node
  rw [places_eq] at member ⊢
  right
  rcases List.mem_cons.mp member with rfl | deeper
  · exact mem_placesAll.mpr ⟨child, below, self_mem_places _ child⟩
  · exact child_mem_placesAll deeper below

theorem child_mem_placesAll {ancestors nodes : List Node} {cursor : Cursor} {child : Node}
    (member : cursor ∈ placesAll ancestors nodes) (below : child ∈ cursor.node.children) :
    ⟨child, cursor.node :: cursor.ancestors⟩ ∈ placesAll ancestors nodes := by
  cases nodes with
  | nil => cases member
  | cons node rest =>
    rw [placesAll_cons] at member ⊢
    rcases List.mem_append.mp member with first | later
    · exact List.mem_append_left _ (child_mem_places first below)
    · exact List.mem_append_right _ (child_mem_placesAll later below)

end

theorem root_mem_cursors (root : Node) : .ofRoot root ∈ root.cursors := by
  rw [cursors_eq]
  exact self_mem_places [] root

theorem child_mem_cursors {root : Node} {cursor : Cursor} {child : Node}
    (member : cursor ∈ root.cursors) (below : child ∈ cursor.node.children) :
    ⟨child, cursor.node :: cursor.ancestors⟩ ∈ root.cursors := by
  rw [cursors_eq] at member ⊢
  exact child_mem_places member below

section Traverse

variable {α : Type} {enter leave : Cursor → List α}

mutual

theorem mem_traverse {ancestors : List Node} {node : Node} {item : α}
    (member : item ∈ traverse enter leave ancestors node) :
    ∃ cursor ∈ places ancestors node, item ∈ enter cursor ∨ item ∈ leave cursor := by
  obtain ⟨kind, number, span, attributes, children⟩ := node
  rw [traverse_eq] at member
  rcases List.mem_append.mp member with before | left
  · rcases List.mem_append.mp before with entered | deeper
    · exact ⟨_, self_mem_places _ _, .inl entered⟩
    · obtain ⟨cursor, inside, either⟩ := mem_traverseAll deeper
      rw [places_eq]
      exact ⟨cursor, List.mem_cons_of_mem _ inside, either⟩
  · exact ⟨_, self_mem_places _ _, .inr left⟩

theorem mem_traverseAll {ancestors nodes : List Node} {item : α}
    (member : item ∈ traverseAll enter leave ancestors nodes) :
    ∃ cursor ∈ placesAll ancestors nodes, item ∈ enter cursor ∨ item ∈ leave cursor := by
  cases nodes with
  | nil => cases member
  | cons node rest =>
    rw [traverseAll] at member
    rw [placesAll_cons]
    rcases List.mem_append.mp member with first | later
    · obtain ⟨cursor, inside, either⟩ := mem_traverse first
      exact ⟨cursor, List.mem_append_left _ inside, either⟩
    · obtain ⟨cursor, inside, either⟩ := mem_traverseAll later
      exact ⟨cursor, List.mem_append_right _ inside, either⟩

end

end Traverse

def Below (above cursor : Cursor) : Prop :=
  cursor.node ∈ above.node.children ∧ cursor.ancestors = above.node :: above.ancestors

mutual

/-- A place in a subtree is that of its root, or right below another. -/
theorem place_cases {ancestors : List Node} {node : Node} {cursor : Cursor}
    (member : cursor ∈ places ancestors node) :
    cursor = ⟨node, ancestors⟩ ∨ ∃ above ∈ places ancestors node, Below above cursor := by
  obtain ⟨kind, number, span, attributes, children⟩ := node
  rw [places_eq] at member ⊢
  rcases List.mem_cons.mp member with same | deeper
  · exact .inl same
  · right
    rcases placeAll_cases deeper with ⟨child, childMember, rfl⟩ | ⟨above, aboveMember, below⟩
    · exact ⟨_, List.mem_cons_self, childMember, rfl⟩
    · exact ⟨above, List.mem_cons_of_mem _ aboveMember, below⟩

theorem placeAll_cases {ancestors nodes : List Node} {cursor : Cursor}
    (member : cursor ∈ placesAll ancestors nodes) :
    (∃ node ∈ nodes, cursor = ⟨node, ancestors⟩) ∨
      ∃ above ∈ placesAll ancestors nodes, Below above cursor := by
  cases nodes with
  | nil => cases member
  | cons node rest =>
    rw [placesAll_cons] at member ⊢
    rcases List.mem_append.mp member with first | later
    · rcases place_cases first with same | ⟨above, aboveMember, below⟩
      · exact .inl ⟨node, List.mem_cons_self, same⟩
      · exact .inr ⟨above, List.mem_append_left _ aboveMember, below⟩
    · rcases placeAll_cases later with ⟨other, otherMember, same⟩ | ⟨above, aboveMember, below⟩
      · exact .inl ⟨other, List.mem_cons_of_mem _ otherMember, same⟩
      · exact .inr ⟨above, List.mem_append_right _ aboveMember, below⟩

end

/-- Parents are as the children of the nodes say. -/
structure Linked (root : Node) : Prop where
  top : ∀ cursor ∈ root.cursors, cursor.parent? = none ↔ cursor = .ofRoot root
  /-- Any other node has the one node as its parent that it is a child of. -/
  parent : ∀ cursor ∈ root.cursors, cursor ≠ .ofRoot root →
    ∃ above ∈ root.cursors, cursor.parent? = some above.node ∧
      ∀ other ∈ root.cursors, cursor.node ∈ other.node.children ↔ other = above

theorem cursor_unique {root : Node}
    (distinct : (root.cursors.map fun cursor => cursor.node.number).Nodup) {first second : Cursor}
    (here : first ∈ root.cursors) (there : second ∈ root.cursors)
    (same : first.node.number = second.node.number) : first = second :=
  List.inj_on_of_nodup_map distinct here there same

theorem linked_of_nodup {root : Node}
    (distinct : (root.cursors.map fun cursor => cursor.node.number).Nodup) : Linked root where
  top := by
    intro cursor member
    rw [cursors_eq] at member
    constructor
    · intro orphan
      rcases place_cases member with same | ⟨above, -, -, ancestors⟩
      · exact same
      · simp [Cursor.parent?, ancestors] at orphan
    · rintro rfl
      rfl
  parent := by
    intro cursor member inner
    rw [cursors_eq] at member
    rcases place_cases member with same | ⟨above, aboveMember, child, ancestors⟩
    · exact absurd same inner
    · rw [← cursors_eq] at member aboveMember
      refine ⟨above, aboveMember, by rw [Cursor.parent?, ancestors]; rfl, ?_⟩
      intro other otherMember
      constructor
      · intro below
        have same := cursor_unique distinct member (child_mem_cursors otherMember below) rfl
        rw [same] at ancestors
        have node := (List.cons.inj ancestors).1
        exact cursor_unique distinct otherMember aboveMember (congrArg Node.number node)
      · rintro rfl
        exact child

end AngularLint.Proofs.Places
