import AngularLint.Node.Build

/-! The nodes of a concrete tree by recursion. The two stacks of `buildNodes` are a detail: what
they bring is the same as building the nodes of the kept children one after another and putting
them below the node of their parent. -/

namespace AngularLint.Proofs.NodeBuild

mutual

/-- The trees that become nodes, in pre-order: a tree itself, and what can be reached from it
through named children that are no comments. -/
def reachable : ParseTree → List ParseTree
  | ⟨kind, named, label, startByte, endByte, children⟩ =>
    ⟨kind, named, label, startByte, endByte, children⟩ :: reachableAll children

def reachableAll : List ParseTree → List ParseTree
  | [] => []
  | tree :: rest =>
    if tree.isKept then reachable tree ++ reachableAll rest else reachableAll rest

end

theorem reachableAll_kept {tree : ParseTree} (kept : tree.isKept = true)
    (rest : List ParseTree) :
    reachableAll (tree :: rest) = reachable tree ++ reachableAll rest := by
  rw [reachableAll, if_pos kept]

theorem reachableAll_skipped {tree : ParseTree} (skipped : ¬tree.isKept = true)
    (rest : List ParseTree) : reachableAll (tree :: rest) = reachableAll rest := by
  rw [reachableAll, if_neg skipped]

theorem mem_reachableAll {trees : List ParseTree} {part : ParseTree} :
    part ∈ reachableAll trees ↔ ∃ tree ∈ trees, tree.isKept = true ∧ part ∈ reachable tree := by
  induction trees with
  | nil => simp [reachableAll]
  | cons tree rest ih =>
    by_cases kept : tree.isKept = true
    · simp [reachableAll_kept kept, ih, kept]
    · simp [reachableAll_skipped kept, ih, kept]

theorem self_mem_reachable (tree : ParseTree) : tree ∈ reachable tree := by
  cases tree
  exact List.mem_cons_self

mutual

/-- From a tree that can be reached, so can its kept children. -/
theorem kept_mem_reachable {tree part child : ParseTree} (member : part ∈ reachable tree)
    (kept : child ∈ part.kept) : child ∈ reachable tree := by
  obtain ⟨kind, named, label, startByte, endByte, children⟩ := tree
  rw [reachable] at member ⊢
  right
  rcases List.mem_cons.mp member with rfl | deeper
  · obtain ⟨inside, kept⟩ := List.mem_filter.mp kept
    exact mem_reachableAll.mpr ⟨child, inside, kept, self_mem_reachable child⟩
  · exact kept_mem_reachableAll deeper kept

theorem kept_mem_reachableAll {trees : List ParseTree} {part child : ParseTree}
    (member : part ∈ reachableAll trees) (kept : child ∈ part.kept) :
    child ∈ reachableAll trees := by
  cases trees with
  | nil => cases member
  | cons tree rest =>
    by_cases inside : tree.isKept = true
    · rw [reachableAll_kept inside] at member ⊢
      rcases List.mem_append.mp member with first | later
      · exact List.mem_append_left _ (kept_mem_reachable first kept)
      · exact List.mem_append_right _ (kept_mem_reachableAll later kept)
    · rw [reachableAll_skipped inside] at member ⊢
      exact kept_mem_reachableAll member kept

end

mutual

/-- The node of a tree, numbered in pre-order from `number` on. -/
def nodeFrom (source : String) (offsets : Offsets) (number : Nat) :
    ParseTree → Except BuildFault Node
  | ⟨kind, named, label, startByte, endByte, children⟩ =>
    (nodesFrom source offsets (number + 1) children).bind
      (ParseTree.assemble ⟨kind, named, label, startByte, endByte, children⟩ source offsets number)

def nodesFrom (source : String) (offsets : Offsets) (number : Nat) :
    List ParseTree → Except BuildFault (List Node)
  | [] => .ok []
  | tree :: rest =>
    if tree.isKept then
      (nodeFrom source offsets number tree).bind fun node =>
        (nodesFrom source offsets (number + (reachable tree).length) rest).map (node :: ·)
    else nodesFrom source offsets number rest

end

variable (source : String) (offsets : Offsets)

theorem nodeFrom_eq (number : Nat) (tree : ParseTree) :
    nodeFrom source offsets number tree =
      (nodesFrom source offsets (number + 1) tree.children).bind
        (tree.assemble source offsets number) := by
  cases tree
  rfl

variable {source offsets}

theorem nodeFrom_ok {number : Nat} {tree : ParseTree} {node : Node}
    (built : nodeFrom source offsets number tree = .ok node) :
    ∃ nodes, nodesFrom source offsets (number + 1) tree.children = .ok nodes ∧
      tree.assemble source offsets number nodes = .ok node := by
  rw [nodeFrom_eq] at built
  cases children : nodesFrom source offsets (number + 1) tree.children with
  | error fault => simp [children, Except.bind] at built
  | ok nodes => exact ⟨nodes, rfl, by simpa only [children, Except.bind] using built⟩

theorem nodesFrom_kept_ok {number : Nat} {tree : ParseTree} {rest : List ParseTree}
    {nodes : List Node} (kept : tree.isKept = true)
    (built : nodesFrom source offsets number (tree :: rest) = .ok nodes) :
    ∃ node others, nodes = node :: others ∧ nodeFrom source offsets number tree = .ok node ∧
      nodesFrom source offsets (number + (reachable tree).length) rest = .ok others := by
  rw [nodesFrom, if_pos kept] at built
  cases first : nodeFrom source offsets number tree with
  | error fault => simp [first, Except.bind] at built
  | ok node =>
    cases later : nodesFrom source offsets (number + (reachable tree).length) rest with
    | error fault => simp [first, later, Except.bind, Except.map] at built
    | ok others =>
      simp only [first, later, Except.bind, Except.map, Except.ok.injEq] at built
      exact ⟨node, others, built.symm, rfl, rfl⟩

theorem nodesFrom_length {number : Nat} {trees : List ParseTree} {nodes : List Node}
    (built : nodesFrom source offsets number trees = .ok nodes) :
    nodes.length = (trees.filter ParseTree.isKept).length := by
  induction trees generalizing number nodes with
  | nil =>
    cases built
    rfl
  | cons tree rest ih =>
    by_cases kept : tree.isKept = true
    · obtain ⟨node, others, rfl, -, later⟩ := nodesFrom_kept_ok kept built
      rw [List.filter_cons_of_pos kept, List.length_cons, List.length_cons, ih later]
    · rw [nodesFrom, if_neg kept] at built
      rw [List.filter_cons_of_neg kept, ih built]

mutual

/-- Taking a tree apart ends with its node on the stack, and all else on the stack as it was. -/
theorem buildNodes_expand (tree : ParseTree) (pending : List BuildTask) (built : List Node)
    (next : Nat) :
    buildNodes source offsets (.expand tree :: pending) built next =
      (nodeFrom source offsets next tree).bind fun node =>
        buildNodes source offsets pending (node :: built) (next + (reachable tree).length) := by
  obtain ⟨kind, named, label, startByte, endByte, children⟩ := tree
  rw [buildNodes, ParseTree.kept, buildNodes_expandAll children, nodeFrom]
  cases assembled : nodesFrom source offsets (next + 1) children with
  | error fault => rfl
  | ok nodes =>
    -- The nodes of the children lie on top of the stack, the last one first.
    have top : ((nodes.reverse ++ built).take (children.filter ParseTree.isKept).length).reverse =
        nodes := by
      rw [← nodesFrom_length assembled, ← List.length_reverse, List.take_left,
        List.reverse_reverse]
    have below : (nodes.reverse ++ built).drop (children.filter ParseTree.isKept).length =
        built := by
      rw [← nodesFrom_length assembled, ← List.length_reverse, List.drop_left]
    have numbers : next + 1 + (reachableAll children).length = next +
        (reachable ⟨kind, named, label, startByte, endByte, children⟩).length := by
      rw [reachable, List.length_cons]
      omega
    simp only [Except.bind]
    rw [buildNodes, top, below, numbers]
    cases ParseTree.assemble ⟨kind, named, label, startByte, endByte, children⟩ source offsets next
      nodes <;> rfl

theorem buildNodes_expandAll (trees : List ParseTree) (pending : List BuildTask)
    (built : List Node) (next : Nat) :
    buildNodes source offsets ((trees.filter ParseTree.isKept).map .expand ++ pending) built next =
      (nodesFrom source offsets next trees).bind fun nodes =>
        buildNodes source offsets pending (nodes.reverse ++ built)
          (next + (reachableAll trees).length) := by
  cases trees with
  | nil => rfl
  | cons tree rest =>
    by_cases kept : tree.isKept = true
    · rw [List.filter_cons_of_pos kept, List.map_cons, List.cons_append,
        buildNodes_expand tree, nodesFrom, if_pos kept, reachableAll_kept kept]
      cases nodeFrom source offsets next tree with
      | error fault => rfl
      | ok node =>
        simp only [Except.bind]
        rw [buildNodes_expandAll rest]
        cases nodesFrom source offsets (next + (reachable tree).length) rest with
        | error fault => rfl
        | ok nodes => simp [Except.bind, Except.map, Nat.add_assoc]
    · rw [List.filter_cons_of_neg kept, nodesFrom, if_neg kept, reachableAll_skipped kept,
        buildNodes_expandAll rest]

end

theorem buildNodes_tree (tree : ParseTree) :
    buildNodes source offsets [.expand tree] [] 0 =
      (nodeFrom source offsets 0 tree).map fun node => [node] := by
  rw [buildNodes_expand]
  cases nodeFrom source offsets 0 tree with
  | error fault => rfl
  | ok node => simp only [Except.bind, Except.map, buildNodes]

theorem toNode_eq (tree : ParseTree) (source : String) :
    tree.toNode source = (nodeFrom source (.ofText source) 0 tree).map some := by
  rw [ParseTree.toNode, buildNodes_tree]
  cases nodeFrom source (.ofText source) 0 tree <;> rfl

theorem nodeFrom_of_toNode {tree : ParseTree} {source : String} {root : Node}
    (built : tree.toNode source = .ok (some root)) :
    nodeFrom source (.ofText source) 0 tree = .ok root := by
  rw [toNode_eq] at built
  cases made : nodeFrom source (.ofText source) 0 tree with
  | error fault => simp [made, Except.map] at built
  | ok node =>
    simp only [made, Except.map, Except.ok.injEq, Option.some.injEq] at built
    rw [built]

end AngularLint.Proofs.NodeBuild
