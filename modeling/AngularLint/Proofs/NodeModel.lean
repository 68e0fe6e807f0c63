import AngularLint.SourceFile
import AngularLint.Proofs.BuildLoop
import AngularLint.Proofs.CommentRemoval
import AngularLint.Proofs.Places
import Mathlib.Data.List.Forall2

/-! The nodes of a text mirror its concrete tree: one node for each tree that can be reached without
passing a token or a comment, in the same order, with the same kind and with the kept children in
their order. -/

namespace AngularLint.Proofs.NodeModel
open NodeBuild BuildLoop CommentRemoval Places

/-- The node has the kind, the characters and the attributes of the tree, and its children stand for
the kept children of the tree, in their order. -/
inductive Models (source : String) (offsets : Offsets) : ParseTree → Node → Prop where
  | intro {tree : ParseTree} {node : Node} (kind : node.kind = tree.kind)
      (span : offsets.spanOf tree = .ok node.span)
      (attributes : node.attributes = tree.attributesIn source node.span)
      (children : List.Forall₂ (Models source offsets) tree.kept node.children) :
      Models source offsets tree node

variable {source : String} {offsets : Offsets}

theorem Models.children {tree : ParseTree} {node : Node} (models : Models source offsets tree node) :
    List.Forall₂ (Models source offsets) tree.kept node.children := by
  cases models with
  | intro _ _ _ children => exact children

theorem assemble_ok {tree : ParseTree} {number : Nat} {children : List Node} {node : Node}
    (assembled : tree.assemble source offsets number children = .ok node) :
    ∃ span, offsets.spanOf tree = .ok span ∧
      node = ⟨tree.kind, number, span, tree.attributesIn source span, children⟩ := by
  cases covered : offsets.spanOf tree with
  | error fault => simp [ParseTree.assemble, covered, bind, Except.bind] at assembled
  | ok span =>
    simp only [ParseTree.assemble, covered, bind, Except.bind, pure, Except.pure,
      Except.ok.injEq] at assembled
    exact ⟨span, rfl, assembled.symm⟩

mutual

theorem nodeFrom_models (tree : ParseTree) {number : Nat} {node : Node}
    (built : nodeFrom source offsets number tree = .ok node) : Models source offsets tree node := by
  obtain ⟨kind, named, label, startByte, endByte, children⟩ := tree
  obtain ⟨nodes, below, assembled⟩ := nodeFrom_ok built
  obtain ⟨span, covered, rfl⟩ := assemble_ok assembled
  exact .intro rfl covered rfl (nodesFrom_models children below)

theorem nodesFrom_models (trees : List ParseTree) {number : Nat} {nodes : List Node}
    (built : nodesFrom source offsets number trees = .ok nodes) :
    List.Forall₂ (Models source offsets) (trees.filter ParseTree.isKept) nodes := by
  cases trees with
  | nil =>
    cases built
    exact .nil
  | cons tree rest =>
    by_cases kept : tree.isKept = true
    · obtain ⟨node, others, rfl, first, later⟩ := nodesFrom_kept_ok kept built
      rw [List.filter_cons_of_pos kept]
      exact .cons (nodeFrom_models tree first) (nodesFrom_models rest later)
    · rw [nodesFrom, if_neg kept] at built
      rw [List.filter_cons_of_neg kept]
      exact nodesFrom_models rest built

end

mutual

theorem nodeFrom_exists (tree : ParseTree) (number : Nat)
    (covered : ∀ part ∈ reachable tree, ∃ span, offsets.spanOf part = .ok span) :
    ∃ node, nodeFrom source offsets number tree = .ok node := by
  obtain ⟨kind, named, label, startByte, endByte, children⟩ := tree
  rw [reachable, List.forall_mem_cons] at covered
  obtain ⟨⟨span, own⟩, below⟩ := covered
  obtain ⟨nodes, built⟩ := nodesFrom_exists children (number + 1) below
  rw [nodeFrom, built]
  simp only [Except.bind, ParseTree.assemble, own, bind, pure, Except.pure]
  exact ⟨_, rfl⟩

theorem nodesFrom_exists (trees : List ParseTree) (number : Nat)
    (covered : ∀ part ∈ reachableAll trees, ∃ span, offsets.spanOf part = .ok span) :
    ∃ nodes, nodesFrom source offsets number trees = .ok nodes := by
  cases trees with
  | nil => exact ⟨[], rfl⟩
  | cons tree rest =>
    by_cases kept : tree.isKept = true
    · rw [reachableAll_kept kept, List.forall_mem_append] at covered
      obtain ⟨node, first⟩ := nodeFrom_exists tree number covered.1
      obtain ⟨nodes, later⟩ :=
        nodesFrom_exists rest (number + (reachable tree).length) covered.2
      rw [nodesFrom, if_pos kept, first]
      simp only [Except.bind, later, Except.map]
      exact ⟨_, rfl⟩
    · rw [reachableAll_skipped kept] at covered
      rw [nodesFrom, if_neg kept]
      exact nodesFrom_exists rest number covered

end

mutual

/-- The places of the nodes go through the trees in pre-order. -/
theorem places_models (tree : ParseTree) {node : Node} (ancestors : List Node)
    (models : Models source offsets tree node) :
    List.Forall₂ (fun part cursor => Models source offsets part cursor.node) (reachable tree)
      (places ancestors node) := by
  obtain ⟨kind, named, label, startByte, endByte, children⟩ := tree
  rw [reachable, places_eq]
  exact .cons models (placesAll_models children _ models.children)

theorem placesAll_models (trees : List ParseTree) {nodes : List Node} (ancestors : List Node)
    (models : List.Forall₂ (Models source offsets) (trees.filter ParseTree.isKept) nodes) :
    List.Forall₂ (fun part cursor => Models source offsets part cursor.node) (reachableAll trees)
      (placesAll ancestors nodes) := by
  cases trees with
  | nil =>
    cases models
    exact .nil
  | cons tree rest =>
    by_cases kept : tree.isKept = true
    · rw [List.filter_cons_of_pos kept] at models
      cases models with
      | cons first later =>
        rw [reachableAll_kept kept, placesAll_cons]
        exact List.rel_append (places_models tree ancestors first)
          (placesAll_models rest ancestors later)
    · rw [List.filter_cons_of_neg kept] at models
      rw [reachableAll_skipped kept]
      exact placesAll_models rest ancestors models

end

mutual

theorem nodeFrom_numbers (tree : ParseTree) {number : Nat} {node : Node} (ancestors : List Node)
    (built : nodeFrom source offsets number tree = .ok node) :
    (places ancestors node).map (fun cursor => cursor.node.number) =
      List.range' number (reachable tree).length := by
  obtain ⟨kind, named, label, startByte, endByte, children⟩ := tree
  obtain ⟨nodes, below, assembled⟩ := nodeFrom_ok built
  obtain ⟨span, covered, rfl⟩ := assemble_ok assembled
  rw [places_eq, List.map_cons, nodesFrom_numbers children _ below, reachable, List.length_cons,
    List.range'_succ]

theorem nodesFrom_numbers (trees : List ParseTree) {number : Nat} {nodes : List Node}
    (ancestors : List Node) (built : nodesFrom source offsets number trees = .ok nodes) :
    (placesAll ancestors nodes).map (fun cursor => cursor.node.number) =
      List.range' number (reachableAll trees).length := by
  cases trees with
  | nil =>
    cases built
    rfl
  | cons tree rest =>
    by_cases kept : tree.isKept = true
    · obtain ⟨node, others, rfl, first, later⟩ := nodesFrom_kept_ok kept built
      rw [placesAll_cons, List.map_append, nodeFrom_numbers tree ancestors first,
        nodesFrom_numbers rest ancestors later, reachableAll_kept kept, List.length_append,
        List.range'_append_1]
    · rw [nodesFrom, if_neg kept] at built
      rw [reachableAll_skipped kept, nodesFrom_numbers rest ancestors built]

end

theorem toNode_models {tree : ParseTree} {root : Node}
    (built : tree.toNode source = .ok (some root)) :
    List.Forall₂ (fun part cursor => Models source (.ofText source) part cursor.node)
      (reachable tree) root.cursors := by
  rw [cursors_eq]
  exact places_models tree [] (nodeFrom_models tree (nodeFrom_of_toNode built))

theorem toNode_numbers {tree : ParseTree} {root : Node}
    (built : tree.toNode source = .ok (some root)) :
    root.cursors.map (fun cursor => cursor.node.number) = List.range (reachable tree).length := by
  rw [cursors_eq, nodeFrom_numbers tree [] (nodeFrom_of_toNode built), List.range_eq_range']

/-- A file that has been parsed has the nodes of the tree that the grammar delivered. -/
theorem parse_ok {grammar : Grammar} {filename : String} {file : SourceFile}
    (parsed : SourceFile.parse grammar filename source = .ok file) :
    ∃ parse root?, grammar.parse? source (Text.endsWith filename ".tsx") = some parse ∧
      parse.tree.toNode source = .ok root? ∧
      file = ⟨filename, source, root?, parse.hasErrors⟩ := by
  rw [SourceFile.parse] at parsed
  split at parsed
  next => cases parsed
  next parse read =>
    split at parsed
    next => cases parsed
    next root? built =>
      cases parsed
      exact ⟨parse, root?, read, built, rfl⟩

/-- When the characters of all that becomes a node can be told, each turn of the loop finds what it
needs and the loop ends with one node. That node and those below it mirror the tree in pre-order,
each with the parent that it is a child of. A file that the grammar reads as this tree has it as its
root. It would be the same without the comments of the tree. -/
theorem tree_becomes_nodes (source : String) (tree : ParseTree)
    (covered : ∀ part ∈ reachable tree, ∃ span, (Offsets.ofText source).spanOf part = .ok span) :
    ∃ root, tree.toNode source = .ok (some root) ∧
      nodeFrom source (.ofText source) 0 tree = .ok root ∧
      (∀ state, Leads source (.ofText source) (.start tree) state →
        Supplied state ∧ state.outcome source (.ofText source) = .ok [root]) ∧
      (∃ next, Leads source (.ofText source) (.start tree) ⟨[], [root], next⟩) ∧
      Models source (.ofText source) tree root ∧
      List.Forall₂ (fun part cursor => Models source (.ofText source) part cursor.node)
        (reachable tree) root.cursors ∧
      root.cursors.map (fun cursor => cursor.node.number) =
        List.range (reachable tree).length ∧
      Linked root ∧
      (∀ grammar filename hasErrors,
        grammar.parse? source (Text.endsWith filename ".tsx") = some ⟨tree, hasErrors⟩ →
          SourceFile.parse grammar filename source =
            .ok ⟨filename, source, some root, hasErrors⟩) ∧
      (withoutComments tree).toNode source = .ok (some root) := by
  obtain ⟨root, built⟩ := nodeFrom_exists tree 0 covered
  have node : tree.toNode source = .ok (some root) := by
    rw [toNode_eq, built]
    rfl
  have loop : (State.start tree).outcome source (.ofText source) = .ok [root] := by
    rw [State.outcome, State.start, buildNodes_tree, built]
    rfl
  have models := nodeFrom_models tree built
  have numbers : root.cursors.map (fun cursor => cursor.node.number) =
      List.range (reachable tree).length := by
    rw [cursors_eq, nodeFrom_numbers tree [] built, List.range_eq_range']
  refine ⟨root, node, built, ?_, leads_to_end loop, models, ?_, numbers, ?_, ?_, ?_⟩
  · intro state leads
    exact ⟨(leads_balanced leads).supplied, (leads_outcome leads).trans loop⟩
  · rw [cursors_eq]
    exact places_models tree [] models
  · apply linked_of_nodup
    rw [numbers]
    exact List.nodup_range
  · intro grammar filename hasErrors read
    simp only [SourceFile.parse, read, node]
  · rw [toNode_eq, nodeFrom_withoutComments, built]
    rfl

/-- A call with a comment between its two parts, in a text with a character of two bytes. -/
def commentedCall : ParseTree :=
  ⟨"program", true, none, 0, 8,
    [⟨"identifier", true, some "function", 0, 2, []⟩, ⟨"comment", true, none, 2, 6, []⟩,
      ⟨"arguments", true, some "arguments", 6, 8,
        [⟨"(", false, none, 6, 7, []⟩, ⟨")", false, none, 7, 8, []⟩]⟩]⟩

theorem commentedCall_nodes :
    (∀ part ∈ reachable commentedCall,
      ∃ span, (Offsets.ofText "é/**/()").spanOf part = .ok span) ∧
      ∃ root, commentedCall.toNode "é/**/()" = .ok (some root) ∧
        root.cursors.map (fun cursor => cursor.node.number) = [0, 1, 2] ∧
        (withoutComments commentedCall).toNode "é/**/()" = .ok (some root) := by
  have covered : ∀ part ∈ reachable commentedCall,
      ∃ span, (Offsets.ofText "é/**/()").spanOf part = .ok span := by
    have told : (reachable commentedCall).all
        (fun part => ((Offsets.ofText "é/**/()").spanOf part).isOk) = true := by
      decide
    intro part member
    have ok := List.all_eq_true.mp told part member
    cases covers : (Offsets.ofText "é/**/()").spanOf part with
    | error fault => simp [covers, Except.isOk, Except.toBool] at ok
    | ok span => exact ⟨span, rfl⟩
  obtain ⟨root, node, -, -, -, -, -, numbers, -, -, uncommented⟩ :=
    tree_becomes_nodes "é/**/()" commentedCall covered
  exact ⟨covered, root, node, numbers, uncommented⟩

end AngularLint.Proofs.NodeModel
