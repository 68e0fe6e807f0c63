import AngularLint.Proofs.NodeAttributes
import AngularLint.Proofs.NodeSpans

/-! What decides an attribute. The value of a string literal goes first. Then children with the name
as their label have a say, then a keyword of that name, then the first child of that kind, then the
text of a leaf, and it makes no difference in which order the tree brings them. -/

namespace AngularLint.Proofs.AttributePrecedence
open ByteOffsets NodeAttributes NodeBuild NodeModel NodeSpans Places

/-- The nodes of the kept children of a tree that satisfy a condition, in their order. -/
def nodesWhere (holds : ParseTree → Bool) (tree : ParseTree) (node : Node) : List Node :=
  ((tree.kept.zip node.children).filter fun pair => holds pair.1).map Prod.snd

/-- One node stands for itself, several are listed. -/
def together : List Node → Option Value
  | [] => none
  | [only] => some (.node only)
  | several => some (.nodes several)

/-- Is the name that of a keyword, and has the tree such a token without a label? -/
def flagged (name : String) (tree : ParseTree) : Bool :=
  modifierKeywords.contains name &&
    tree.children.any fun child => !child.named && child.label.isNone && child.kind == name

/-- The attribute of a name by the first rule that has a say. -/
def ranked (source : String) (tree : ParseTree) (node : Node) (name : String) : Option Value :=
  (together (nodesWhere (labelledAs name) tree node)).or <|
    (if flagged name tree then some .flag else none).or <|
      ((nodesWhere (unlabelledOf name) tree node).head?.map .node).or <|
        if tree.kept.isEmpty && name == "text" then some (.text (node.textIn source)) else none

variable {source : String} {offsets : Offsets} {tree : ParseTree} {node : Node}

theorem flagged_eq (name : String) (tree : ParseTree) :
    tree.children.any (keywordOf name) = flagged name tree := by
  rw [Bool.eq_iff_iff, flagged, Bool.and_eq_true, List.any_eq_true, List.any_eq_true]
  constructor
  · rintro ⟨child, member, keyword⟩
    simp only [keywordOf, Bool.and_eq_true, beq_iff_eq] at keyword
    obtain ⟨⟨token, known, bare⟩, rfl⟩ := keyword
    exact ⟨known, child, member, by simp [token, bare]⟩
  · rintro ⟨known, child, member, token⟩
    simp only [Bool.and_eq_true, beq_iff_eq] at token
    obtain ⟨⟨token, bare⟩, rfl⟩ := token
    exact ⟨child, member, by rw [keywordOf, token, bare, known, beq_self_eq_true]; rfl⟩

theorem positions_nodes (holds : ParseTree → Bool) {trees : List ParseTree} {nodes : List Node}
    (same : trees.length = nodes.length) :
    (positions holds trees).filterMap (fun position => nodes[position]?) =
      ((trees.zip nodes).filter fun pair => holds pair.1).map Prod.snd := by
  induction trees using List.reverseRecOn generalizing nodes with
  | nil => rfl
  | append_singleton before last ih =>
    rcases List.eq_nil_or_concat nodes with rfl | ⟨others, final, rfl⟩
    · simp at same
    · rw [List.concat_eq_append] at same ⊢
      have shorter : before.length = others.length := by simpa using same
      have early : (positions holds before).filterMap
          (fun position => (others ++ [final])[position]?) =
            (positions holds before).filterMap (fun position => others[position]?) := by
        apply List.filterMap_congr
        intro position member
        obtain ⟨tree, there, -⟩ := mem_positions.mp member
        have inside := (List.getElem?_eq_some_iff.mp there).1
        exact List.getElem?_append_left (shorter ▸ inside)
      rw [positions_append, List.filterMap_append, early, ih shorter, List.zip_append shorter,
        List.filter_append, List.map_append, shorter]
      cases here : holds last <;> simp [here]

/-- Positions among the kept children are positions among the children of the node. -/
theorem position_node (holds : ParseTree → Bool) (same : tree.kept.length = node.children.length) :
    ∀ position ∈ positions holds tree.kept, ∃ child, node.children[position]? = some child := by
  intro position member
  obtain ⟨kept, there, -⟩ := mem_positions.mp member
  have inside := (List.getElem?_eq_some_iff.mp there).1
  exact ⟨_, List.getElem?_eq_getElem (same ▸ inside)⟩

theorem valueOf_child {position : Nat} {child : Node}
    (found : node.children[position]? = some child) :
    node.valueOf (.child position) = some (.node child) := by
  rw [Node.valueOf, found]
  rfl

theorem valueOf_settled {labelled : List Nat} (flag : Bool)
    (there : ∀ position ∈ labelled, ∃ child, node.children[position]? = some child) :
    (settled labelled flag).bind node.valueOf =
      (together (labelled.filterMap fun position => node.children[position]?)).or
        (if flag then some .flag else none) := by
  match labelled with
  | [] => cases flag <;> rfl
  | [only] =>
    obtain ⟨child, found⟩ := there only List.mem_cons_self
    simp [settled, together, valueOf_child found, found]
  | first :: second :: rest =>
    obtain ⟨child, found⟩ := there first List.mem_cons_self
    obtain ⟨other, otherFound⟩ := there second (List.mem_cons_of_mem _ List.mem_cons_self)
    simp [settled, Node.valueOf, together, found, otherFound]

theorem valueOf_first {ofKind : List Nat}
    (there : ∀ position ∈ ofKind, ∃ child, node.children[position]? = some child) :
    (ofKind.head?.map .child).bind node.valueOf =
      (ofKind.filterMap fun position => node.children[position]?).head?.map .node := by
  cases ofKind with
  | nil => rfl
  | cons first rest =>
    obtain ⟨child, found⟩ := there first List.mem_cons_self
    simp [valueOf_child found, found]

theorem settled_valued {labelled : List Nat} {flag : Bool}
    (there : ∀ position ∈ labelled, ∃ child, node.children[position]? = some child) :
    ∀ held, settled labelled flag = some held → ∃ value, node.valueOf held = some value := by
  intro held found
  cases held with
  | child position =>
    obtain ⟨child, below⟩ := there position (settled_child found)
    exact ⟨_, valueOf_child below⟩
  | _ => exact ⟨_, rfl⟩

theorem first_valued {ofKind : List Nat}
    (there : ∀ position ∈ ofKind, ∃ child, node.children[position]? = some child) :
    ∀ held, ofKind.head?.map .child = some held → ∃ value, node.valueOf held = some value := by
  intro held found
  obtain ⟨position, first, rfl⟩ := Option.map_eq_some_iff.mp found
  obtain ⟨child, below⟩ := there position (List.mem_of_mem_head? first)
  exact ⟨_, valueOf_child below⟩

theorem bind_or {α β : Type} {first second : Option α} {f : α → Option β}
    (total : ∀ a, first = some a → ∃ b, f a = some b) :
    (first.or second).bind f = (first.bind f).or (second.bind f) := by
  cases first with
  | none => rfl
  | some a =>
    obtain ⟨b, same⟩ := total a rfl
    simp [same]

theorem attribute_ranked (models : Models source offsets tree node) {name : String}
    (unquoted : ¬(tree.kind = "string" ∧ name = "value")) :
    node.attribute? name = ranked source tree node name := by
  cases models with
  | intro _ _ attributes children =>
    have same := children.length_eq
    have literal : (tree.kind == "string" && name == "value") = false := by
      simpa [Bool.and_eq_false_iff] using unquoted
    have labels := position_node (labelledAs name) same
    have kinds := position_node (unlabelledOf name) same
    rw [Node.attribute?, attributes, attributesIn_get?, literal, if_neg Bool.false_ne_true,
      Option.or_assoc, bind_or (settled_valued labels), bind_or (first_valued kinds),
      valueOf_settled _ labels, valueOf_first kinds, positions_nodes _ same,
      positions_nodes _ same, flagged_eq, Option.or_assoc]
    rw [ranked]
    cases tree.kept.isEmpty && name == "text" <;> rfl

theorem literalValue_slice {span : Span} (long : 2 ≤ span.length) :
    literalValue source span = Text.slice source (span.start + 1) (span.stop - 1) := by
  have late : ¬(span.stop == 0) = true := by
    rw [Span.length] at long
    rw [beq_iff_eq]
    omega
  rw [literalValue, if_neg late]

/-- A part of the text with at least two characters, without the first and the last of them. -/
theorem slice_between {start stop : Nat} (long : start + 2 ≤ stop) (inside : stop ≤ source.length) :
    ∃ first last, (Text.slice source start stop).toList =
      first :: (Text.slice source (start + 1) (stop - 1)).toList ++ [last] := by
  obtain ⟨before, rfl⟩ : ∃ before, stop = before + 1 := ⟨stop - 1, by omega⟩
  rw [← String.length_toList] at inside
  have room : start < (source.toList.take before).length := by
    rw [List.length_take]
    omega
  refine ⟨(source.toList.take before)[start], source.toList[before], ?_⟩
  rw [Text.slice, String.toList_ofList, Text.slice, String.toList_ofList, Nat.add_sub_cancel,
    List.take_succ_eq_append_getElem inside, List.drop_append_of_le_length (Nat.le_of_lt room),
    List.drop_eq_getElem_cons room]

theorem stop_inside (models : Models source (.ofText source) tree node)
    (inside : tree.endByte ≤ source.utf8ByteSize) : node.span.stop ≤ source.length := by
  obtain ⟨_, stop, -, told, -, within⟩ := charOffset_monotone (Nat.le_refl tree.endByte) inside
  cases (models_offsets models).2.symm.trans told
  exact within

def withoutLabelledTokens (tree : ParseTree) : ParseTree :=
  { tree with children := tree.children.filter fun child => child.named || child.label.isNone }

theorem attributesIn_withoutLabelledTokens (tree : ParseTree) (span : Span) :
    (withoutLabelledTokens tree).attributesIn source span = tree.attributesIn source span := by
  have silent (gathering : Gathering) (child : ParseTree) :
      (if (child.named || child.label.isNone) = true then gathering.add child else gathering) =
        gathering.add child := by
    cases named : child.named <;> cases label : child.label <;> simp [Gathering.add, named, label]
  have gathered : Gathering.ofChildren (withoutLabelledTokens tree).children =
      Gathering.ofChildren tree.children := by
    rw [Gathering.ofChildren, withoutLabelledTokens, List.foldl_filter]
    simp only [silent]
    rfl
  simp only [ParseTree.attributesIn, gathered]
  rfl

/-- How the attributes of a node come about from its tree. -/
structure Decided (source : String) (tree : ParseTree) (node : Node) : Prop where
  /-- The value of a string literal is always a text: what stands between its two ends. Where the
  literal lies within the source, that is its own text without the first and the last character. -/
  literal : tree.kind = "string" → ∃ content, node.attribute? "value" = some (.text content) ∧
    (2 ≤ node.span.length →
      content = Text.slice source (node.span.start + 1) (node.span.stop - 1)) ∧
    (2 ≤ node.span.length → tree.endByte ≤ source.utf8ByteSize → ∃ first last,
      (node.textIn source).toList = first :: content.toList ++ [last])
  other : ∀ name, ¬(tree.kind = "string" ∧ name = "value") →
    node.attribute? name = ranked source tree node name
  /-- A name without a value is no key. -/
  present : ∀ name, node.attributes.contains name = (node.attribute? name).isSome
  /-- Any other arrangement of the same kept children and keywords would bring the same. -/
  arranged : ∀ arrangement : ParseTree, arrangement.kind = tree.kind →
    arrangement.kept = tree.kept → (∀ name, flagged name arrangement = flagged name tree) →
      ∀ name, (arrangement.attributesIn source node.span).get? name = node.attributes.get? name
  tokens : (withoutLabelledTokens tree).attributesIn source node.span = node.attributes

theorem attribute_literal (models : Models source offsets tree node)
    (quoted : tree.kind = "string") :
    node.attribute? "value" = some (.text (literalValue source node.span)) := by
  cases models with
  | intro _ _ attributes _ =>
    rw [Node.attribute?, attributes, attributesIn_get?, quoted]
    rfl

theorem attribute_present (models : Models source offsets tree node) (name : String) :
    node.attributes.contains name = (node.attribute? name).isSome := by
  rw [OrderedMap.contains, Node.attribute?]
  cases found : node.attributes.get? name with
  | none => rfl
  | some held =>
    cases held with
    | child position =>
      cases models with
      | intro _ _ attributes children =>
        rw [attributes] at found
        obtain ⟨kept, there, -⟩ := child_of_attribute found
        have inside := (List.getElem?_eq_some_iff.mp there).1
        have below := List.getElem?_eq_getElem (children.length_eq ▸ inside)
        rw [Option.bind_some, valueOf_child below]
        rfl
    | _ => rfl

theorem decided_of_models (models : Models source (.ofText source) tree node) :
    Decided source tree node where
  literal := by
    intro quoted
    refine ⟨_, attribute_literal models quoted, literalValue_slice, ?_⟩
    intro long inside
    rw [literalValue_slice long, Node.textIn]
    refine slice_between ?_ (stop_inside models inside)
    rw [Span.length] at long
    omega
  other := fun name unquoted => attribute_ranked models unquoted
  present := attribute_present models
  arranged := by
    intro arrangement kind kept keywords name
    cases models with
    | intro _ _ attributes _ =>
      rw [attributes, attributesIn_get?, attributesIn_get?, flagged_eq, flagged_eq, kind, kept,
        keywords]
  tokens := by
    cases models with
    | intro _ _ attributes _ => rw [attributesIn_withoutLabelledTokens, attributes]

/-- Each node has the attributes that its tree decides, by the first rule that has a say on the
name. -/
theorem attributes_by_precedence (source : String) (tree : ParseTree) (root : Node)
    (built : tree.toNode source = .ok (some root)) :
    List.Forall₂ (fun part cursor => Decided source part cursor.node) (reachable tree)
      root.cursors := by
  have models := toNode_models built
  exact models.imp fun _ _ partModels => decided_of_models partModels

/-- A keyword, a child with the same word as its label, and a string literal. -/
def clashing : ParseTree :=
  ⟨"program", true, none, 0, 15,
    [⟨"async", false, none, 0, 5, []⟩, ⟨"identifier", true, some "async", 6, 7, []⟩,
      ⟨"string", true, none, 8, 15, []⟩]⟩

def clashingWord : Node :=
  ⟨"identifier", 1, { start := 6, stop := 7 }, ⟨[("text", .text "f")]⟩, []⟩

def clashingLiteral : Node :=
  ⟨"string", 2, { start := 8, stop := 15 },
    ⟨[("text", .text "'value'"), ("value", .text "value")]⟩, []⟩

def clashingRoot : Node :=
  ⟨"program", 0, { start := 0, stop := 15 }, ⟨[("async", .child 0), ("string", .child 1)]⟩,
    [clashingWord, clashingLiteral]⟩

theorem clashing_by_precedence :
    clashing.toNode "async f 'value'" = .ok (some clashingRoot) ∧
      flagged "async" clashing = true ∧
      clashingRoot.attribute? "async" = some (.node clashingWord) := by
  have built : clashing.toNode "async f 'value'" = .ok (some clashingRoot) := by
    rw [toNode_eq]
    rfl
  have decided := attributes_by_precedence "async f 'value'" clashing clashingRoot built
  rw [clashing, reachable, cursors_eq, places_eq, List.forall₂_cons] at decided
  exact ⟨built, rfl, decided.1.other "async" (by decide)⟩

end AngularLint.Proofs.AttributePrecedence
