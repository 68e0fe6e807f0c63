import AngularLint.Node.Build
import AngularLint.Proofs.OrderedMaps
import Mathlib.Data.List.Induction

/-! Where the attributes of a node come from. Children with a label go before keywords, these before
the first child of a kind, and that before the text of a leaf, in whatever order they stand in the
tree. -/

namespace AngularLint.Proofs.NodeAttributes
open OrderedMaps

variable {children : List ParseTree} {gathering : Gathering}

/-- The places in a list of the trees that satisfy a condition. -/
def positions (holds : ParseTree → Bool) (trees : List ParseTree) : List Nat :=
  (trees.zipIdx.filter fun item => holds item.1).map Prod.snd

theorem positions_append (holds : ParseTree → Bool) (trees : List ParseTree) (last : ParseTree) :
    positions holds (trees ++ [last]) =
      positions holds trees ++ if holds last then [trees.length] else [] := by
  rw [positions, List.zipIdx_append, List.filter_append, List.map_append, Nat.zero_add]
  refine congrArg (positions holds trees ++ ·) ?_
  cases here : holds last <;> simp [here]

theorem mem_positions {holds : ParseTree → Bool} {trees : List ParseTree} {position : Nat} :
    position ∈ positions holds trees ↔
      ∃ tree, trees[position]? = some tree ∧ holds tree = true := by
  simp only [positions, List.mem_map, List.mem_filter, Prod.exists, exists_eq_right,
    List.mk_mem_zipIdx_iff_getElem?]

theorem positions_length (holds : ParseTree → Bool) (trees : List ParseTree) :
    (positions holds trees).length = (trees.filter holds).length := by
  have same : trees.filter holds =
      (trees.zipIdx.filter fun item => holds item.1).map Prod.fst := by
    conv => lhs; rw [← List.zipIdx_map_fst 0 trees, List.filter_map]
    rfl
  rw [same, positions, List.length_map, List.length_map]

def labelledAs (name : String) (child : ParseTree) : Bool :=
  child.label == some name

def unlabelledOf (name : String) (child : ParseTree) : Bool :=
  child.label.isNone && child.kind == name

/-- A keyword without a label, which becomes a flag of its own name. -/
def keywordOf (name : String) (child : ParseTree) : Bool :=
  !child.named && (modifierKeywords.contains child.kind && child.label.isNone) && child.kind == name

/-- What the children with a label and the keywords of one name come to. -/
def settled (labelled : List Nat) (flagged : Bool) : Option Attribute :=
  match labelled with
  | [] => if flagged then some .flag else none
  | [only] => some (.child only)
  | several => some (.children several)

/-- What has been gathered from children of the concrete tree. -/
structure Gathers (children : List ParseTree) (gathering : Gathering) : Prop where
  position : gathering.position = (children.filter ParseTree.isKept).length
  attributes : ∀ name, gathering.attributes.get? name =
    settled (positions (labelledAs name) (children.filter ParseTree.isKept))
      (children.any (keywordOf name))
  byKind : ∀ name, gathering.byKind.get? name =
    (positions (unlabelledOf name) (children.filter ParseTree.isKept)).head?

theorem settled_or_flag (labelled : List Nat) (flagged also : Bool) :
    (settled labelled flagged).or (if also then some .flag else none) =
      settled labelled (flagged || also) := by
  match labelled with
  | [] => cases flagged <;> cases also <;> rfl
  | [only] => rfl
  | first :: second :: rest => rfl

theorem settled_child {labelled : List Nat} {flagged : Bool} {position : Nat}
    (single : settled labelled flagged = some (.child position)) : position ∈ labelled := by
  match labelled with
  | [] => cases flagged <;> cases single
  | [only] =>
    cases single
    exact List.mem_singleton_self _
  | _ :: _ :: _ => cases single

theorem settled_children {labelled several : List Nat} {flagged : Bool}
    (many : settled labelled flagged = some (.children several)) : 2 ≤ labelled.length := by
  match labelled with
  | [] => cases flagged <;> cases many
  | [only] => cases many
  | _ :: _ :: rest => exact Nat.le_add_left 2 rest.length

theorem get?_addLabelled {attributes : OrderedMap String Attribute} {labelled : List Nat}
    {flagged : Bool} {label : String} (held : attributes.get? label = settled labelled flagged)
    (position : Nat) (name : String) :
    (Gathering.addLabelled attributes label position).get? name =
      if name == label then settled (labelled ++ [position]) flagged
      else attributes.get? name := by
  rw [Gathering.addLabelled, held]
  match labelled with
  | [] => cases flagged <;> simp [settled, get?_insert]
  | [only] => simp [settled, get?_insert]
  | first :: second :: rest => simp [settled, get?_insert]

/-- A child that does not become a node can only set a flag. -/
theorem Gathers.dropped {child : ParseTree} (gathers : Gathers children gathering)
    (dropped : child.isKept = false) : Gathers (children ++ [child]) (gathering.add child) := by
  have kept : (children ++ [child]).filter ParseTree.isKept =
      children.filter ParseTree.isKept := by
    rw [List.filter_append, List.filter_cons, dropped]
    exact List.append_nil _
  have silent (same : gathering.add child = gathering)
      (unflagged : ∀ name, keywordOf name child = false) :
      Gathers (children ++ [child]) (gathering.add child) := by
    rw [same]
    refine ⟨kept ▸ gathers.position, fun name => ?_, fun name => kept ▸ gathers.byKind name⟩
    rw [kept, List.any_append, List.any_cons, List.any_nil, unflagged, Bool.or_false, Bool.or_false]
    exact gathers.attributes name
  cases named : child.named with
  | false =>
    cases flags : modifierKeywords.contains child.kind && child.label.isNone with
    | false =>
      refine silent (by simp only [Gathering.add, named, flags]; rfl) fun name => ?_
      rw [keywordOf, flags, Bool.and_false]
      rfl
    | true =>
      have flag (name : String) : keywordOf name child = (name == child.kind) := by
        rw [keywordOf, flags, named]
        exact Bool.beq_comm
      have added : gathering.add child =
          { gathering with attributes := gathering.attributes.insertNew child.kind .flag } := by
        simp only [Gathering.add, named, flags]
        rfl
      rw [added]
      refine ⟨kept ▸ gathers.position, fun name => ?_, fun name => kept ▸ gathers.byKind name⟩
      rw [kept, get?_insertNew, gathers.attributes, settled_or_flag, List.any_append,
        List.any_cons, List.any_nil, flag, Bool.or_false]
  | true =>
    have comment : child.isComment = true := by
      simpa [ParseTree.isKept, named] using dropped
    exact silent (by simp only [Gathering.add, named, comment]; rfl)
      fun name => by rw [keywordOf, named]; rfl

/-- A child that becomes a node takes the next position, under its label or its kind. -/
theorem Gathers.taken {child : ParseTree} (gathers : Gathers children gathering)
    (taken : child.isKept = true) : Gathers (children ++ [child]) (gathering.add child) := by
  have kept : (children ++ [child]).filter ParseTree.isKept =
      children.filter ParseTree.isKept ++ [child] := by
    rw [List.filter_append, List.filter_cons, taken]
    rfl
  obtain ⟨named, noComment⟩ : child.named = true ∧ child.isComment = false := by
    simpa [ParseTree.isKept] using taken
  have flags (name : String) : (children ++ [child]).any (keywordOf name) =
      children.any (keywordOf name) := by
    rw [List.any_append, List.any_cons, List.any_nil, keywordOf, named]
    exact Bool.or_false _
  cases label : child.label with
  | none =>
    have added : gathering.add child =
        { gathering with
          position := gathering.position + 1
          byKind := gathering.byKind.insertNew child.kind gathering.position } := by
      simp only [Gathering.add, named, noComment, label]
      rfl
    rw [added]
    refine ⟨?_, fun name => ?_, fun name => ?_⟩
    · rw [kept, List.length_append, gathers.position]
      rfl
    · rw [kept, positions_append, flags, gathers.attributes, labelledAs, label]
      exact congrArg (settled · _) (List.append_nil _).symm
    · rw [kept, positions_append, get?_insertNew, gathers.byKind, gathers.position,
        List.head?_append, unlabelledOf, label, Bool.beq_comm]
      cases child.kind == name <;> rfl
  | some wanted =>
    have added : gathering.add child =
        { gathering with
          position := gathering.position + 1
          attributes := Gathering.addLabelled gathering.attributes wanted gathering.position } := by
      simp only [Gathering.add, named, noComment, label]
      rfl
    rw [added]
    refine ⟨?_, fun name => ?_, fun name => ?_⟩
    · rw [kept, List.length_append, gathers.position]
      rfl
    · rw [kept, positions_append, flags, get?_addLabelled (gathers.attributes wanted),
        gathers.position, labelledAs, label]
      by_cases same : name = wanted
      · rw [same]
        simp
      · have different : wanted ≠ name := Ne.symm same
        simp [same, different, gathers.attributes]
    · rw [kept, positions_append, gathers.byKind, unlabelledOf, label]
      exact congrArg List.head? (List.append_nil _).symm

theorem gathers_ofChildren (children : List ParseTree) :
    Gathers children (Gathering.ofChildren children) := by
  induction children using List.reverseRecOn with
  | nil => exact ⟨rfl, fun _ => rfl, fun _ => rfl⟩
  | append_singleton before last ih =>
    rw [Gathering.ofChildren, List.foldl_append]
    cases kept : last.isKept with
    | false => exact ih.dropped kept
    | true => exact ih.taken kept

/-- The attribute of a name: by a label, else by a keyword, else by a kind. A leaf has its text
besides, and a string literal always its own value. -/
theorem attributesIn_get? (tree : ParseTree) (source : String) (span : Span) (name : String) :
    (tree.attributesIn source span).get? name =
      if tree.kind == "string" && name == "value" then some (.text (literalValue source span))
      else
        ((settled (positions (labelledAs name) tree.kept)
            (tree.children.any (keywordOf name))).or
          ((positions (unlabelledOf name) tree.kept).head?.map .child)).or
          (if tree.kept.isEmpty && name == "text" then
            some (.text (Text.slice source span.start span.stop))
          else none) := by
  have gathers := gathers_ofChildren tree.children
  have byKinds : (Gathering.ofChildren tree.children).withKinds.get? name =
      (settled (positions (labelledAs name) tree.kept) (tree.children.any (keywordOf name))).or
        ((positions (unlabelledOf name) tree.kept).head?.map .child) := by
    rw [Gathering.withKinds, get?_foldl_insertNew, gathers.attributes]
    exact congrArg (fun first => Option.or _ (first.map Attribute.child)) (gathers.byKind name)
  have leaf : ((Gathering.ofChildren tree.children).position == 0) = tree.kept.isEmpty := by
    rw [gathers.position, ← ParseTree.kept]
    cases tree.kept <;> rfl
  have texts : (if tree.kept.isEmpty then
        (Gathering.ofChildren tree.children).withKinds.insertNew "text"
          (.text (Text.slice source span.start span.stop))
      else (Gathering.ofChildren tree.children).withKinds).get? name =
        ((Gathering.ofChildren tree.children).withKinds.get? name).or
          (if tree.kept.isEmpty && name == "text" then
            some (.text (Text.slice source span.start span.stop))
          else none) := by
    cases tree.kept.isEmpty with
    | false => exact Option.or_none.symm
    | true => exact get?_insertNew _ _ _ _
  simp only [ParseTree.attributesIn, leaf]
  rw [← byKinds, ← texts]
  cases tree.kind == "string" with
  | false => rfl
  | true => exact get?_insert _ _ _ _

theorem attribute_origin {tree : ParseTree} {source : String} {span : Span} {name : String}
    {held : Attribute} (found : (tree.attributesIn source span).get? name = some held) :
    (∃ content, held = .text content) ∨
      settled (positions (labelledAs name) tree.kept) (tree.children.any (keywordOf name)) =
        some held ∨
      ∃ position ∈ positions (unlabelledOf name) tree.kept, held = .child position := by
  rw [attributesIn_get?] at found
  split at found
  · exact .inl ⟨_, (Option.some.inj found).symm⟩
  · rcases Option.or_eq_some_iff.mp found with named | ⟨_, leaf⟩
    · rcases Option.or_eq_some_iff.mp named with labelled | ⟨_, ofKind⟩
      · exact .inr (.inl labelled)
      · obtain ⟨position, first, same⟩ := Option.map_eq_some_iff.mp ofKind
        exact .inr (.inr ⟨position, List.mem_of_mem_head? first, same.symm⟩)
    · rw [Option.ite_none_right_eq_some] at leaf
      exact .inl ⟨_, (Option.some.inj leaf.2).symm⟩

/-- An attribute that is one child has the name as its label or its kind. -/
theorem child_of_attribute {tree : ParseTree} {source : String} {span : Span} {name : String}
    {position : Nat} (found : (tree.attributesIn source span).get? name = some (.child position)) :
    ∃ child, tree.kept[position]? = some child ∧ (child.label = some name ∨ child.kind = name) := by
  rcases attribute_origin found with ⟨_, text⟩ | labelled | ⟨_, ofKind, same⟩
  · cases text
  · obtain ⟨child, there, labels⟩ := mem_positions.mp (settled_child labelled)
    exact ⟨child, there, .inl (beq_iff_eq.mp labels)⟩
  · cases same
    obtain ⟨child, there, isKind⟩ := mem_positions.mp ofKind
    rw [unlabelledOf, Bool.and_eq_true, beq_iff_eq] at isKind
    exact ⟨child, there, .inr isKind.2⟩

/-- An attribute that is several children stands for at least two with that label. -/
theorem children_of_attribute {tree : ParseTree} {source : String} {span : Span} {name : String}
    {several : List Nat}
    (found : (tree.attributesIn source span).get? name = some (.children several)) :
    2 ≤ (tree.kept.filter (labelledAs name)).length := by
  rw [← positions_length]
  rcases attribute_origin found with ⟨_, text⟩ | labelled | ⟨_, _, same⟩
  · cases text
  · exact settled_children labelled
  · cases same

end AngularLint.Proofs.NodeAttributes
