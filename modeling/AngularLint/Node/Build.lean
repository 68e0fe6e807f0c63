import AngularLint.Node
import AngularLint.ParseTree

/-! From a concrete syntax tree to nodes. Named children other than comments become nodes, byte
offsets become character offsets, and labels, kinds and keywords become attributes. The tree is
taken apart and put together again with two stacks, so its depth costs no call stack. -/

namespace AngularLint

inductive BuildFault where
  /-- An offset behind the end of the text. -/
  | offsetOutside (byte : Nat)
  | invalidSpan (invalid : InvalidSpan)
deriving DecidableEq, Repr

def BuildFault.message : BuildFault → String
  | .offsetOutside byte =>
    if byte < Number.wordBound then "list index out of range" else Number.wordMessage
  | .invalidSpan invalid => invalid.message

/-- How byte offsets of a text become character offsets. -/
inductive Offsets where
  /-- Every character is one byte. -/
  | same
  /-- The character offset of each byte, and of the end of the text. -/
  | table (entries : Array Nat)

namespace Offsets

/-- The number of the character that each byte belongs to, counted from `index` on, and last the
number of characters. -/
def entriesFrom : Nat → List Char → List Nat
  | index, [] => [index]
  | index, c :: rest => List.replicate c.utf8Size index ++ entriesFrom (index + 1) rest

def ofText (text : String) : Offsets :=
  if text.utf8ByteSize == text.length then .same
  else .table (entriesFrom 0 text.toList).toArray

def charOffset (offsets : Offsets) (byte : Nat) : Except BuildFault Nat :=
  match offsets with
  | .same => .ok byte
  | .table entries =>
    match entries[byte]? with
    | some offset => .ok offset
    | none => .error (.offsetOutside byte)

def spanOf (offsets : Offsets) (tree : ParseTree) : Except BuildFault Span := do
  let start ← offsets.charOffset tree.startByte
  let stop ← offsets.charOffset tree.endByte
  (Span.between start stop).mapError .invalidSpan

end Offsets

/-- Keywords that become flags of the node that they modify. -/
def modifierKeywords : List String :=
  ["abstract", "async", "declare", "default", "export", "get", "override", "readonly", "set",
   "static"]

/-- Attributes on the way: those settled, the first child of each kind without a label, and the
position of the next child. -/
structure Gathering where
  attributes : OrderedMap String Attribute
  byKind : OrderedMap String Nat
  position : Nat

namespace Gathering

def addLabelled (attributes : OrderedMap String Attribute) (label : String) (position : Nat) :
    OrderedMap String Attribute :=
  match attributes.get? label with
  | some (.child first) => attributes.insert label (.children [first, position])
  | some (.children positions) => attributes.insert label (.children (positions ++ [position]))
  | _ => attributes.insert label (.child position)

def add (gathering : Gathering) (child : ParseTree) : Gathering :=
  if !child.named then
    if modifierKeywords.contains child.kind && child.label.isNone then
      { gathering with attributes := gathering.attributes.insertNew child.kind .flag }
    else gathering
  else if child.isComment then gathering
  else
    let next := { gathering with position := gathering.position + 1 }
    match child.label with
    | none => { next with byKind := next.byKind.insertNew child.kind gathering.position }
    | some label =>
      { next with attributes := addLabelled next.attributes label gathering.position }

def ofChildren (children : List ParseTree) : Gathering :=
  children.foldl add ⟨.empty, .empty, 0⟩

/-- The settled attributes and, where a name is still free, the first child of that kind. -/
def withKinds (gathering : Gathering) : OrderedMap String Attribute :=
  gathering.byKind.entries.foldl
    (fun attributes entry => attributes.insertNew entry.1 (.child entry.2)) gathering.attributes

end Gathering

/-- The text of a string literal without its quotes. A literal that ends where the text begins is
cut at the end of the text instead. -/
def literalValue (source : String) (span : Span) : String :=
  if span.stop == 0 then Text.slice source (span.start + 1) (source.length - 1)
  else Text.slice source (span.start + 1) (span.stop - 1)

/-- The attributes of the node that a tree becomes: its labelled children and keywords, then the
first child of each kind, then the text of a leaf, and the value of a string literal before all. -/
def ParseTree.attributesIn (tree : ParseTree) (source : String) (span : Span) :
    OrderedMap String Attribute :=
  let gathering := Gathering.ofChildren tree.children
  let attributes := gathering.withKinds
  let attributes :=
    if gathering.position == 0 then
      attributes.insertNew "text" (.text (Text.slice source span.start span.stop))
    else attributes
  if tree.kind == "string" then attributes.insert "value" (.text (literalValue source span))
  else attributes

def ParseTree.assemble (tree : ParseTree) (source : String) (offsets : Offsets) (number : Nat)
    (children : List Node) : Except BuildFault Node := do
  let span ← offsets.spanOf tree
  return ⟨tree.kind, number, span, tree.attributesIn source span, children⟩

inductive BuildTask where
  /-- Take a tree apart. -/
  | expand (tree : ParseTree)
  /-- Put a tree together from the nodes of its children. -/
  | assemble (tree : ParseTree) (number arity : Nat)

mutual

def ParseTree.size : ParseTree → Nat
  | ⟨_, _, _, _, _, children⟩ => 1 + ParseTree.sizeAll children

def ParseTree.sizeAll : List ParseTree → Nat
  | [] => 0
  | tree :: rest => tree.size + ParseTree.sizeAll rest

end

/-- A bound on the steps that a task takes. -/
def BuildTask.weight : BuildTask → Nat
  | .expand tree => 2 * tree.size
  | .assemble _ _ _ => 1

def BuildTask.weightAll : List BuildTask → Nat
  | [] => 0
  | task :: rest => task.weight + BuildTask.weightAll rest

theorem ParseTree.size_eq (tree : ParseTree) :
    tree.size = 1 + ParseTree.sizeAll tree.children := by
  cases tree
  rfl

theorem BuildTask.weightAll_append (first second : List BuildTask) :
    BuildTask.weightAll (first ++ second) =
      BuildTask.weightAll first + BuildTask.weightAll second := by
  induction first with
  | nil => simp [weightAll]
  | cons task rest ih =>
    simp only [List.cons_append, weightAll, ih]
    omega

theorem BuildTask.weightAll_expand_le (p : ParseTree → Bool) (trees : List ParseTree) :
    BuildTask.weightAll ((trees.filter p).map .expand) ≤ 2 * ParseTree.sizeAll trees := by
  induction trees with
  | nil => simp [weightAll]
  | cons tree rest ih =>
    by_cases h : p tree
    · simp only [List.filter_cons_of_pos h, List.map_cons, weightAll, weight, ParseTree.sizeAll]
      omega
    · simp only [List.filter_cons_of_neg h, ParseTree.sizeAll]
      omega

/-- Works off the pending tasks. Finished nodes lie on a stack, the last one on top; `next` is the
number of the next node in pre-order. -/
def buildNodes (source : String) (offsets : Offsets) :
    List BuildTask → List Node → Nat → Except BuildFault (List Node)
  | [], built, _ => .ok built
  | .expand tree :: pending, built, next =>
    buildNodes source offsets
      (tree.kept.map .expand ++ .assemble tree next tree.kept.length :: pending) built (next + 1)
  | .assemble tree number arity :: pending, built, next =>
    match tree.assemble source offsets number (built.take arity).reverse with
    | .error fault => .error fault
    | .ok node => buildNodes source offsets pending (node :: built.drop arity) next
termination_by pending => BuildTask.weightAll pending
decreasing_by
  · have kept := BuildTask.weightAll_expand_le ParseTree.isKept tree.children
    have size := tree.size_eq
    simp only [BuildTask.weightAll_append, BuildTask.weightAll, BuildTask.weight, ParseTree.kept]
    omega
  · simp [BuildTask.weightAll, BuildTask.weight]

/-- The nodes of a text whose concrete syntax tree is given; `none` stands for no node at all. -/
def ParseTree.toNode (tree : ParseTree) (source : String) : Except BuildFault (Option Node) :=
  (buildNodes source (.ofText source) [.expand tree] [] 0).map List.head?

end AngularLint
