import AngularLint.Angular.Decorators
import AngularLint.Proofs.RuleTrace

/-! The open classes along a tour. Whoever pushes each class when it is entered and pops one when it
is left has, at every moment of the tour, exactly the classes around the node on the stack, and none
at the end. -/

namespace AngularLint.Proofs.ClassWalk
open AngularLint.Angular RuleTrace Tour

/-- The classes in a list of ancestors, in their places, the nearest first. -/
def classesAbove : List Node → List Cursor
  | [] => []
  | node :: outer =>
    if node.kind ∈ classKinds then ⟨node, outer⟩ :: classesAbove outer else classesAbove outer

def frames (ancestors : List Node) : ClassStack :=
  (classesAbove ancestors).map classify

theorem frames_class {node : Node} (isClass : node.kind ∈ classKinds) (outer : List Node) :
    frames (node :: outer) = classify ⟨node, outer⟩ :: frames outer := by
  rw [frames, classesAbove, if_pos isClass, List.map_cons, frames]

theorem frames_other {node : Node} (other : node.kind ∉ classKinds) (outer : List Node) :
    frames (node :: outer) = frames outer := by
  rw [frames, classesAbove, if_neg other, frames]

def shift (stack : ClassStack) : Moment × Cursor → ClassStack
  | (.enter, cursor) =>
    if cursor.node.kind ∈ classKinds then classify cursor :: stack else stack
  | (.leave, cursor) => if cursor.node.kind ∈ classKinds then stack.tail else stack
  | (.select, _) => stack
  | (.finish, _) => stack

/-- The classes that are open when a moment comes. -/
def openAt : Moment × Cursor → ClassStack
  | (.enter, cursor) => frames cursor.ancestors
  | (.select, cursor) => frames (cursor.node :: cursor.ancestors)
  | (.leave, cursor) => frames (cursor.node :: cursor.ancestors)
  | (.finish, _) => []

/-- From this stack on, the right classes are open at each moment. -/
def Walk (stack : ClassStack) : List (Moment × Cursor) → Prop
  | [] => True
  | turn :: rest => stack = openAt turn ∧ Walk (shift stack turn) rest

theorem walk_append (stack : ClassStack) (first second : List (Moment × Cursor)) :
    Walk stack (first ++ second) ↔ Walk stack first ∧ Walk (first.foldl shift stack) second := by
  induction first generalizing stack with
  | nil => simp [Walk]
  | cons turn rest ih => simp only [List.cons_append, Walk, ih, List.foldl_cons, and_assoc]

theorem shift_enter (node : Node) (outer : List Node) :
    shift (frames outer) (.enter, ⟨node, outer⟩) = frames (node :: outer) := by
  rw [shift]
  split
  next isClass => rw [frames_class isClass]
  next other => rw [frames_other other]

theorem shift_leave (node : Node) (outer : List Node) :
    shift (frames (node :: outer)) (.leave, ⟨node, outer⟩) = frames outer := by
  rw [shift]
  split
  next isClass => rw [frames_class isClass, List.tail_cons]
  next other => rw [frames_other other]

theorem shift_still {stack : ClassStack} {moment : Moment} {cursor : Cursor}
    (still : cursor.node.kind ∈ classKinds → moment ≠ .enter ∧ moment ≠ .leave) :
    shift stack (moment, cursor) = stack := by
  cases moment with
  | enter => exact if_neg fun isClass => (still isClass).1 rfl
  | leave => exact if_neg fun isClass => (still isClass).2 rfl
  | select => rfl
  | finish => rfl

/-- The walk through a subtree is right, and leaves the stack as it was. -/
def Returns (outer : List Node) (turns : List (Moment × Cursor)) : Prop :=
  Walk (frames outer) turns ∧ turns.foldl shift (frames outer) = frames outer

theorem Returns.append {outer : List Node} {first second : List (Moment × Cursor)}
    (before : Returns outer first) (later : Returns outer second) :
    Returns outer (first ++ second) := by
  constructor
  · rw [walk_append, before.2]
    exact ⟨before.1, later.1⟩
  · rw [List.foldl_append, before.2, later.2]

theorem Returns.around {outer : List Node} {node : Node} {inside : List (Moment × Cursor)}
    (within : Returns (node :: outer) inside) :
    Returns outer
      ([(.enter, ⟨node, outer⟩), (.select, ⟨node, outer⟩)] ++ inside ++
        [(.leave, ⟨node, outer⟩)]) := by
  have entered : [(Moment.enter, Cursor.mk node outer), (.select, ⟨node, outer⟩)].foldl shift
      (frames outer) = frames (node :: outer) := shift_enter node outer
  constructor
  · rw [walk_append, walk_append, List.foldl_append, entered, within.2]
    exact ⟨⟨⟨rfl, shift_enter node outer, trivial⟩, within.1⟩, rfl, trivial⟩
  · rw [List.foldl_append, List.foldl_append, entered, within.2]
    exact shift_leave node outer

mutual

theorem traverse_returns (outer : List Node) (node : Node) :
    Returns outer
      (traverse (fun cursor => [(.enter, cursor), (.select, cursor)])
        (fun cursor => [(.leave, cursor)]) outer node) := by
  obtain ⟨kind, number, span, attributes, children⟩ := node
  exact (traverseAll_returns _ children).around

theorem traverseAll_returns (outer : List Node) (nodes : List Node) :
    Returns outer
      (traverseAll (fun cursor => [(.enter, cursor), (.select, cursor)])
        (fun cursor => [(.leave, cursor)]) outer nodes) := by
  cases nodes with
  | nil => exact ⟨trivial, rfl⟩
  | cons node rest => exact (traverse_returns outer node).append (traverseAll_returns outer rest)

end

theorem turns_eq (root : Node) :
    turns root =
      traverse (fun cursor => [(.enter, cursor), (.select, cursor)])
        (fun cursor => [(.leave, cursor)]) [] root ++ [(.finish, .ofRoot root)] := by
  rw [← List.flatMap_singleton' (turns root), turns_flatMap]
  rfl

theorem turns_walk (root : Node) : Walk [] (turns root) ∧ (turns root).foldl shift [] = [] := by
  obtain ⟨right, back⟩ := traverse_returns [] root
  rw [turns_eq, walk_append, List.foldl_append]
  exact ⟨⟨right, back, trivial⟩, back⟩

/-- When a moment of the tour comes, the moments before it have left the right classes open. -/
theorem open_at_turn {root : Node} {passed later : List (Moment × Cursor)} {turn : Moment × Cursor}
    (split : turns root = passed ++ turn :: later) : passed.foldl shift [] = openAt turn := by
  have walk := (turns_walk root).1
  rw [split, walk_append] at walk
  exact walk.2.1

theorem finish_at_root {root : Node} {cursor : Cursor} (member : (.finish, cursor) ∈ turns root) :
    cursor = .ofRoot root := by
  rcases List.mem_append.mp member with toured | last
  · obtain ⟨visit, _, inside⟩ := List.mem_flatMap.mp toured
    cases visit <;> simp [moments] at inside
  · exact congrArg Prod.snd (List.mem_singleton.mp last)

/-- At a node that is no class, at any moment, the classes around it are open. -/
theorem openAt_other {root : Node} {moment : Moment} {cursor : Cursor}
    (member : (moment, cursor) ∈ turns root) (other : cursor.node.kind ∉ classKinds) :
    openAt (moment, cursor) = frames cursor.ancestors := by
  cases moment with
  | enter => rfl
  | select => exact frames_other other _
  | leave => exact frames_other other _
  | finish =>
    rw [finish_at_root member]
    rfl

end AngularLint.Proofs.ClassWalk
