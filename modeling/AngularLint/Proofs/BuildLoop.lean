import AngularLint.Node.Build
import Mathlib.Logic.Relation

/-! The turns of the loop that builds nodes. What keeps the two stacks in step is a count: played
through with nothing but the number of finished nodes, the tasks that are left find as many nodes as
each of them takes, and end with one. -/

namespace AngularLint.Proofs.BuildLoop

structure State where
  pending : List BuildTask
  built : List Node
  next : Nat

namespace State

def start (tree : ParseTree) : State :=
  ⟨[.expand tree], [], 0⟩

def outcome (source : String) (offsets : Offsets) (state : State) : Except BuildFault (List Node) :=
  buildNodes source offsets state.pending state.built state.next

/-- One turn of the loop; there is none when no task is left. -/
def turn? (source : String) (offsets : Offsets) : State → Option (Except BuildFault State)
  | ⟨[], _, _⟩ => none
  | ⟨.expand tree :: pending, built, next⟩ =>
    some (.ok ⟨tree.kept.map .expand ++ .assemble tree next tree.kept.length :: pending, built,
      next + 1⟩)
  | ⟨.assemble tree number arity :: pending, built, next⟩ =>
    some ((tree.assemble source offsets number (built.take arity).reverse).map fun node =>
      ⟨pending, node :: built.drop arity, next⟩)

end State

variable {source : String} {offsets : Offsets}

/-- The loop takes one turn after another until there is none or one fails. -/
theorem outcome_eq (state : State) :
    state.outcome source offsets =
      match state.turn? source offsets with
      | none => .ok state.built
      | some (.error fault) => .error fault
      | some (.ok after) => after.outcome source offsets := by
  obtain ⟨pending, built, next⟩ := state
  match pending with
  | [] => rw [State.outcome, buildNodes, State.turn?]
  | .expand tree :: pending =>
    rw [State.outcome, buildNodes, State.turn?]
    rfl
  | .assemble tree number arity :: pending =>
    rw [State.outcome, buildNodes, State.turn?]
    cases tree.assemble source offsets number (built.take arity).reverse with
    | error fault => rfl
    | ok node => rfl

def Leads (source : String) (offsets : Offsets) : State → State → Prop :=
  Relation.ReflTransGen fun before after => before.turn? source offsets = some (.ok after)

theorem leads_outcome {before after : State} (leads : Leads source offsets before after) :
    after.outcome source offsets = before.outcome source offsets := by
  induction leads with
  | refl => rfl
  | tail _ turn ih => rw [← ih, outcome_eq, outcome_eq, turn, ← outcome_eq]

/-- A loop that brings nodes gets to a state with these nodes and no task left. -/
theorem leads_to_end {state : State} {built : List Node}
    (brought : state.outcome source offsets = .ok built) :
    ∃ next, Leads source offsets state ⟨[], built, next⟩ := by
  obtain ⟨pending, nodes, next⟩ := state
  unfold State.outcome at brought
  fun_induction buildNodes source offsets pending nodes next with
  | case1 nodes next =>
    cases brought
    exact ⟨next, .refl⟩
  | case2 tree pending nodes next ih =>
    obtain ⟨last, leads⟩ := ih brought
    exact ⟨last, .head rfl leads⟩
  | case3 tree number arity pending nodes next fault failed => cases brought
  | case4 tree number arity pending nodes next node assembled ih =>
    obtain ⟨last, leads⟩ := ih brought
    refine ⟨last, .head ?_ leads⟩
    simp only [State.turn?, assembled, Except.map]

/-- With so many finished nodes, each task finds as many as it takes, and they end with one. -/
def Balanced : List BuildTask → Nat → Prop
  | [], height => height = 1
  | .expand _ :: pending, height => Balanced pending (height + 1)
  | .assemble tree _ arity :: pending, height =>
    arity = tree.kept.length ∧ arity ≤ height ∧ Balanced pending (height - arity + 1)

theorem balanced_expandAll (trees : List ParseTree) (pending : List BuildTask) (height : Nat) :
    Balanced (trees.map .expand ++ pending) height ↔ Balanced pending (height + trees.length) := by
  induction trees generalizing height with
  | nil => rfl
  | cons tree rest ih =>
    rw [List.map_cons, List.cons_append, Balanced, ih, List.length_cons, Nat.add_assoc,
      Nat.add_comm 1]

theorem turn_balanced {before after : State} (turn : before.turn? source offsets = some (.ok after))
    (balanced : Balanced before.pending before.built.length) :
    Balanced after.pending after.built.length := by
  obtain ⟨pending, built, next⟩ := before
  match pending with
  | [] => cases turn
  | .expand tree :: pending =>
    cases turn
    rw [Balanced] at balanced
    simp only [balanced_expandAll, Balanced]
    refine ⟨trivial, Nat.le_add_left _ _, ?_⟩
    rwa [Nat.add_sub_cancel]
  | .assemble tree number arity :: pending =>
    simp only [State.turn?, Option.some.injEq] at turn
    obtain ⟨-, -, balanced⟩ := balanced
    cases assembled : tree.assemble source offsets number (built.take arity).reverse with
    | error fault => simp [assembled, Except.map] at turn
    | ok node =>
      simp only [assembled, Except.map, Except.ok.injEq] at turn
      subst turn
      simpa using balanced

theorem leads_balanced {tree : ParseTree} {state : State}
    (reached : Leads source offsets (.start tree) state) :
    Balanced state.pending state.built.length := by
  induction reached with
  | refl => rfl
  | tail _ turn ih => exact turn_balanced turn ih

theorem add_position (gathering : Gathering) (child : ParseTree) :
    (gathering.add child).position =
      gathering.position + ([child].filter ParseTree.isKept).length := by
  cases named : child.named with
  | false =>
    have skipped : ¬child.isKept = true := by simp [ParseTree.isKept, named]
    rw [List.filter_cons_of_neg skipped, Gathering.add]
    simp only [named, Bool.not_false, if_true]
    split <;> rfl
  | true =>
    cases comment : child.isComment with
    | true =>
      have skipped : ¬child.isKept = true := by simp [ParseTree.isKept, comment]
      rw [List.filter_cons_of_neg skipped, Gathering.add]
      simp [named, comment]
    | false =>
      have kept : child.isKept = true := by simp [ParseTree.isKept, named, comment]
      rw [List.filter_cons_of_pos kept, Gathering.add]
      simp only [named, comment, Bool.not_true, Bool.false_eq_true, if_false]
      cases child.label <;> rfl

theorem ofChildren_position (children : List ParseTree) :
    (Gathering.ofChildren children).position = (children.filter ParseTree.isKept).length := by
  have counting (gathering : Gathering) (children : List ParseTree) :
      (children.foldl Gathering.add gathering).position =
        gathering.position + (children.filter ParseTree.isKept).length := by
    induction children generalizing gathering with
    | nil => rfl
    | cons child rest ih =>
      have split : (child :: rest).filter ParseTree.isKept =
          [child].filter ParseTree.isKept ++ rest.filter ParseTree.isKept :=
        List.filter_append [child] rest
      rw [List.foldl_cons, ih, add_position, split, List.length_append, Nat.add_assoc]
  rw [Gathering.ofChildren, counting]
  exact Nat.zero_add _

/-- The next turn finds what it needs. A tree that is put together finds as many finished nodes as
it has kept children, and there is one left whenever a kept child asks for its node. When no task is
left, there is one node. -/
structure Supplied (state : State) : Prop where
  enough : ∀ tree number arity pending, state.pending = .assemble tree number arity :: pending →
    arity ≤ state.built.length ∧ (Gathering.ofChildren tree.children).position = arity
  left : ∀ tree number arity pending before child after,
    state.pending = .assemble tree number arity :: pending →
      tree.children = before ++ child :: after → child.isKept = true →
        (Gathering.ofChildren before).position < arity
  finished : state.pending = [] → state.built.length = 1

theorem Balanced.supplied {state : State} (balanced : Balanced state.pending state.built.length) :
    Supplied state where
  enough := by
    intro tree number arity pending next
    rw [next] at balanced
    obtain ⟨rfl, inside, -⟩ := balanced
    exact ⟨inside, ofChildren_position tree.children⟩
  left := by
    intro tree number arity pending before child after next split kept
    rw [next] at balanced
    obtain ⟨rfl, -, -⟩ := balanced
    rw [ofChildren_position, ParseTree.kept, split, List.filter_append,
      List.filter_cons_of_pos kept, List.length_append, List.length_cons]
    omega
  finished := by
    intro next
    rwa [next] at balanced

end AngularLint.Proofs.BuildLoop
