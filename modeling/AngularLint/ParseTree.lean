/-! Concrete syntax trees, as a grammar delivers them: every token is there, offsets count bytes of
the UTF-8 text, and a node may carry the label of the field that it fills in its parent. -/

namespace AngularLint

/-- A node of a concrete syntax tree. Tokens such as keywords and brackets are not named. -/
structure ParseTree where
  kind : String
  named : Bool
  label : Option String
  startByte : Nat
  endByte : Nat
  children : List ParseTree

namespace ParseTree

/-- One line of a tree written in pre-order: the node without its children, and their number. -/
structure Row where
  kind : String
  named : Bool
  label : Option String
  startByte : Nat
  endByte : Nat
  childCount : Nat
deriving Repr

def Row.gather (row : Row) (trees : List ParseTree) : List ParseTree :=
  ⟨row.kind, row.named, row.label, row.startByte, row.endByte, trees.take row.childCount⟩ ::
    trees.drop row.childCount

/-- The tree of rows in pre-order. The rows are read from the last one on, so the subtrees of a row
are complete when the row is met. -/
def ofRows? (rows : List Row) : Option ParseTree :=
  (rows.foldr Row.gather []).head?

/-- Comments have no part in the node model. -/
def isComment (tree : ParseTree) : Bool :=
  tree.kind == "comment" || tree.kind == "html_comment"

def isKept (tree : ParseTree) : Bool :=
  tree.named && !tree.isComment

def kept (tree : ParseTree) : List ParseTree :=
  tree.children.filter isKept

end ParseTree

structure Parse where
  tree : ParseTree
  hasErrors : Bool

/-- A grammar: the parse of a text, in the dialect with markup or in the plain one. -/
structure Grammar where
  parse? : (text : String) → (markup : Bool) → Option Parse

end AngularLint
