import AngularLint.Node

/-! Nodes in their place in the tree. A cursor is a node together with the nodes above it, and a
tour visits all cursors below one: each node is entered before its children and left after them. -/

namespace AngularLint

/-- A node and its ancestors, the nearest first. -/
structure Cursor where
  node : Node
  ancestors : List Node

namespace Cursor

def ofRoot (root : Node) : Cursor :=
  ⟨root, []⟩

def parent? (cursor : Cursor) : Option Node :=
  cursor.ancestors.head?

def children (cursor : Cursor) : List Cursor :=
  cursor.node.children.map fun child => ⟨child, cursor.node :: cursor.ancestors⟩

end Cursor

inductive Visit where
  | enter (cursor : Cursor)
  | leave (cursor : Cursor)

mutual

def Node.size : Node → Nat
  | ⟨_, _, _, _, children⟩ => 1 + Node.sizeAll children

def Node.sizeAll : List Node → Nat
  | [] => 0
  | node :: rest => node.size + Node.sizeAll rest

end

/-- The number of moments that a visit still brings. -/
def Visit.weight : Visit → Nat
  | .enter cursor => 2 * cursor.node.size
  | .leave _ => 1

def Visit.weightAll : List Visit → Nat
  | [] => 0
  | visit :: rest => visit.weight + Visit.weightAll rest

theorem Node.size_eq (node : Node) : node.size = 1 + Node.sizeAll node.children := by
  cases node
  rfl

theorem Visit.weightAll_append (first second : List Visit) :
    Visit.weightAll (first ++ second) = Visit.weightAll first + Visit.weightAll second := by
  induction first with
  | nil => simp [weightAll]
  | cons visit rest ih =>
    simp only [List.cons_append, weightAll, ih]
    omega

theorem Visit.weightAll_enter (ancestors : List Node) (nodes : List Node) :
    Visit.weightAll ((nodes.map fun node => Cursor.mk node ancestors).map .enter) =
      2 * Node.sizeAll nodes := by
  induction nodes with
  | nil => rfl
  | cons node rest ih =>
    simp only [List.map_cons, weightAll, weight, Node.sizeAll, ih]
    omega

/-- The moments that follow from the visits on a stack, in order of time. -/
def tourFrom : List Visit → List Visit
  | [] => []
  | .leave cursor :: stack => .leave cursor :: tourFrom stack
  | .enter cursor :: stack =>
    .enter cursor :: tourFrom (cursor.children.map .enter ++ .leave cursor :: stack)
termination_by stack => Visit.weightAll stack
decreasing_by
  · simp [Visit.weightAll, Visit.weight]
  · have children := Visit.weightAll_enter (cursor.node :: cursor.ancestors) cursor.node.children
    have size := cursor.node.size_eq
    simp only [Cursor.children, Visit.weightAll_append, Visit.weightAll, Visit.weight, children]
    omega

def Node.tour (root : Node) : List Visit :=
  tourFrom [.enter (.ofRoot root)]

def Visit.entered? : Visit → Option Cursor
  | .enter cursor => some cursor
  | .leave _ => none

/-- All nodes of a tree in their places, in pre-order. -/
def Node.cursors (root : Node) : List Cursor :=
  root.tour.filterMap Visit.entered?

end AngularLint
