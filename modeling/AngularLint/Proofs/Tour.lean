import AngularLint.Cursor

/-! The tour by recursion on the tree. The stack of visits that are left is a detail of `tourFrom`:
what it brings is the same as going through the tree node by node, children between the entry of
their parent and its exit. Everything about the order of events rests on this. -/

namespace AngularLint.Proofs.Tour

universe u v

variable {α : Type u} {β : Type v}

mutual

/-- Goes through a subtree: what comes on entering its node, then its children from left to right,
then what comes on leaving its node. -/
def traverse (enter leave : Cursor → List α) (ancestors : List Node) : Node → List α
  | ⟨kind, number, span, attributes, children⟩ =>
    let node : Node := ⟨kind, number, span, attributes, children⟩
    enter ⟨node, ancestors⟩ ++ traverseAll enter leave (node :: ancestors) children ++
      leave ⟨node, ancestors⟩

def traverseAll (enter leave : Cursor → List α) (ancestors : List Node) : List Node → List α
  | [] => []
  | node :: rest =>
    traverse enter leave ancestors node ++ traverseAll enter leave ancestors rest

end

variable (enter leave : Cursor → List α)

theorem traverse_eq (ancestors : List Node) (node : Node) :
    traverse enter leave ancestors node =
      enter ⟨node, ancestors⟩ ++ traverseAll enter leave (node :: ancestors) node.children ++
        leave ⟨node, ancestors⟩ := by
  cases node
  rfl

theorem traverseAll_eq_flatMap (ancestors : List Node) (nodes : List Node) :
    traverseAll enter leave ancestors nodes = nodes.flatMap (traverse enter leave ancestors) := by
  induction nodes with
  | nil => rfl
  | cons node rest ih => rw [traverseAll, ih, List.flatMap_cons]

mutual

theorem flatMap_traverse (f : α → List β) (ancestors : List Node) (node : Node) :
    (traverse enter leave ancestors node).flatMap f =
      traverse (fun cursor => (enter cursor).flatMap f) (fun cursor => (leave cursor).flatMap f)
        ancestors node := by
  obtain ⟨kind, number, span, attributes, children⟩ := node
  simp only [traverse, List.flatMap_append]
  rw [flatMap_traverseAll f _ children]

theorem flatMap_traverseAll (f : α → List β) (ancestors : List Node) (nodes : List Node) :
    (traverseAll enter leave ancestors nodes).flatMap f =
      traverseAll (fun cursor => (enter cursor).flatMap f) (fun cursor => (leave cursor).flatMap f)
        ancestors nodes := by
  cases nodes with
  | nil => rfl
  | cons node rest =>
    simp only [traverseAll, List.flatMap_append]
    rw [flatMap_traverse f ancestors node, flatMap_traverseAll f ancestors rest]

end

def expand : Visit → List Visit
  | .enter cursor =>
    traverse (fun cursor => [.enter cursor]) (fun cursor => [.leave cursor]) cursor.ancestors
      cursor.node
  | .leave cursor => [.leave cursor]

/-- The stack holds what is left of the recursion: its visits, expanded in order. -/
theorem tourFrom_eq_flatMap (stack : List Visit) : tourFrom stack = stack.flatMap expand := by
  fun_induction tourFrom stack with
  | case1 => rfl
  | case2 cursor stack ih => simp only [ih, List.flatMap_cons, expand, List.singleton_append]
  | case3 cursor stack ih =>
    have children : (cursor.children.map Visit.enter).flatMap expand =
        traverseAll (fun cursor => [.enter cursor]) (fun cursor => [.leave cursor])
          (cursor.node :: cursor.ancestors) cursor.node.children := by
      simp only [traverseAll_eq_flatMap, Cursor.children, List.map_map, List.flatMap_map]
      rfl
    rw [ih, List.flatMap_append, children, List.flatMap_cons, List.flatMap_cons, expand, expand,
      traverse_eq]
    simp only [List.nil_append, List.cons_append, List.append_assoc]

/-- A tour with something at each visit is the recursion with that at each node. -/
theorem tour_flatMap (f : Visit → List α) (root : Node) :
    root.tour.flatMap f =
      traverse (fun cursor => f (.enter cursor)) (fun cursor => f (.leave cursor)) [] root := by
  rw [Node.tour, tourFrom_eq_flatMap, List.flatMap_singleton, expand, Cursor.ofRoot,
    flatMap_traverse]
  simp only [List.flatMap_singleton]

end AngularLint.Proofs.Tour
