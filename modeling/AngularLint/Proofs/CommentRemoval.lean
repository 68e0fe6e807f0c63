import AngularLint.Proofs.NodeBuild

/-! Comments leave no trace in the nodes of a text. A tree becomes the same nodes, attributes
included, when all comments below it are taken away first. -/

namespace AngularLint.Proofs.CommentRemoval
open NodeBuild

variable {source : String} {offsets : Offsets}

mutual

/-- The tree without the comments below it, and without all that is below a comment. -/
def withoutComments : ParseTree → ParseTree
  | ⟨kind, named, label, startByte, endByte, children⟩ =>
    ⟨kind, named, label, startByte, endByte, withoutCommentsAll children⟩

def withoutCommentsAll : List ParseTree → List ParseTree
  | [] => []
  | tree :: rest =>
    if tree.isComment then withoutCommentsAll rest
    else withoutComments tree :: withoutCommentsAll rest

end

theorem withoutComments_eq (tree : ParseTree) :
    withoutComments tree = { tree with children := withoutCommentsAll tree.children } := by
  cases tree
  rfl

theorem withoutComments_isKept (tree : ParseTree) :
    (withoutComments tree).isKept = tree.isKept := by
  rw [withoutComments_eq]
  rfl

theorem comment_skipped {tree : ParseTree} (comment : tree.isComment = true) :
    ¬tree.isKept = true := by
  simp [ParseTree.isKept, comment]

/-- A comment adds nothing to what is gathered, as no keyword reads like a comment. -/
theorem add_comment (gathering : Gathering) {tree : ParseTree} (comment : tree.isComment = true) :
    gathering.add tree = gathering := by
  have keyword : modifierKeywords.contains tree.kind = false := by
    simp only [ParseTree.isComment, Bool.or_eq_true, beq_iff_eq] at comment
    rcases comment with kind | kind
    · rw [kind]
      decide
    · rw [kind]
      decide
  simp only [Gathering.add, comment, keyword, Bool.false_and, Bool.false_eq_true, if_false, if_true,
    ite_self]

theorem add_withoutComments (gathering : Gathering) (tree : ParseTree) :
    gathering.add (withoutComments tree) = gathering.add tree := by
  rw [withoutComments_eq]
  rfl

theorem ofChildren_withoutComments (children : List ParseTree) :
    Gathering.ofChildren (withoutCommentsAll children) = Gathering.ofChildren children := by
  have gathering (gathering : Gathering) (children : List ParseTree) :
      (withoutCommentsAll children).foldl Gathering.add gathering =
        children.foldl Gathering.add gathering := by
    induction children generalizing gathering with
    | nil => rfl
    | cons tree rest ih =>
      rw [withoutCommentsAll, List.foldl_cons]
      split
      next comment => rw [add_comment gathering comment, ih]
      next => rw [List.foldl_cons, add_withoutComments, ih]
  exact gathering _ children

theorem assemble_withoutComments (tree : ParseTree) (number : Nat) (children : List Node) :
    (withoutComments tree).assemble source offsets number children =
      tree.assemble source offsets number children := by
  have attributes (span : Span) : (withoutComments tree).attributesIn source span =
      tree.attributesIn source span := by
    rw [withoutComments_eq]
    simp only [ParseTree.attributesIn, ofChildren_withoutComments]
  have covered : offsets.spanOf (withoutComments tree) = offsets.spanOf tree := by
    rw [withoutComments_eq]
    rfl
  have kind : (withoutComments tree).kind = tree.kind := by rw [withoutComments_eq]
  simp only [ParseTree.assemble, attributes, covered, kind]

mutual

theorem reachable_withoutComments (tree : ParseTree) :
    (reachable (withoutComments tree)).length = (reachable tree).length := by
  obtain ⟨kind, named, label, startByte, endByte, children⟩ := tree
  rw [withoutComments, reachable, reachable, List.length_cons, List.length_cons,
    reachableAll_withoutComments children]

theorem reachableAll_withoutComments (trees : List ParseTree) :
    (reachableAll (withoutCommentsAll trees)).length = (reachableAll trees).length := by
  cases trees with
  | nil => rfl
  | cons tree rest =>
    rw [withoutCommentsAll]
    split
    next comment =>
      rw [reachableAll_skipped (comment_skipped comment), reachableAll_withoutComments rest]
    next =>
      simp only [reachableAll, withoutComments_isKept]
      split
      · rw [List.length_append, List.length_append, reachable_withoutComments tree,
          reachableAll_withoutComments rest]
      · exact reachableAll_withoutComments rest

end

mutual

theorem nodeFrom_withoutComments (tree : ParseTree) (number : Nat) :
    nodeFrom source offsets number (withoutComments tree) =
      nodeFrom source offsets number tree := by
  obtain ⟨kind, named, label, startByte, endByte, children⟩ := tree
  rw [nodeFrom_eq, nodeFrom_eq, withoutComments_eq,
    nodesFrom_withoutComments children (number + 1), ← withoutComments_eq]
  congr 1
  funext nodes
  exact assemble_withoutComments _ number nodes

theorem nodesFrom_withoutComments (trees : List ParseTree) (number : Nat) :
    nodesFrom source offsets number (withoutCommentsAll trees) =
      nodesFrom source offsets number trees := by
  cases trees with
  | nil => rfl
  | cons tree rest =>
    rw [withoutCommentsAll]
    split
    next comment =>
      rw [nodesFrom_withoutComments rest, nodesFrom, if_neg (comment_skipped comment)]
    next =>
      simp only [nodesFrom, withoutComments_isKept, nodeFrom_withoutComments tree,
        reachable_withoutComments, nodesFrom_withoutComments rest]

end

end AngularLint.Proofs.CommentRemoval
