import AngularLint.Proofs.ByteOffsets
import AngularLint.Proofs.NodeModel
import AngularLint.Proofs.Outcomes

/-! The characters of nodes. A node covers the characters whose bytes its tree covers, whatever
characters the text is made of, and since later bytes never belong to earlier characters, nodes lie
in each other and side by side as their trees do. -/

namespace AngularLint.Proofs.NodeSpans
open AngularLint.Text ByteOffsets NodeBuild NodeModel Outcomes Places

/-- The tree covers a part of the text that starts and ends where characters do. -/
structure Fits (text : String) (tree : ParseTree) : Prop where
  start : String.Pos.Raw.IsValid text ⟨tree.startByte⟩
  stop : String.Pos.Raw.IsValid text ⟨tree.endByte⟩
  ordered : tree.startByte ≤ tree.endByte

instance (text : String) (tree : ParseTree) : Decidable (Fits text tree) :=
  decidable_of_iff
    (String.Pos.Raw.isValid text ⟨tree.startByte⟩ = true ∧
      String.Pos.Raw.isValid text ⟨tree.endByte⟩ = true ∧ tree.startByte ≤ tree.endByte)
    ⟨fun ⟨start, stop, ordered⟩ => ⟨String.Pos.Raw.isValid_eq_true_iff.mp start,
        String.Pos.Raw.isValid_eq_true_iff.mp stop, ordered⟩,
      fun fits => ⟨String.Pos.Raw.isValid_eq_true_iff.mpr fits.start,
        String.Pos.Raw.isValid_eq_true_iff.mpr fits.stop, fits.ordered⟩⟩

/-- The characters of the range are written with the bytes of the tree. -/
structure Covers (text : String) (tree : ParseTree) (span : Span) : Prop where
  bytes : (slice text span.start span.stop).toUTF8 =
    text.toUTF8.extract tree.startByte tree.endByte
  ordered : span.start ≤ span.stop
  inside : span.stop ≤ text.length

variable {text : String} {tree : ParseTree}

theorem Fits.inside (fits : Fits text tree) : tree.endByte ≤ text.utf8ByteSize :=
  fits.stop.le_utf8ByteSize

theorem Fits.split (fits : Fits text tree) : ∃ first middle last, text = first ++ middle ++ last ∧
    tree.startByte = first.utf8ByteSize ∧ tree.endByte = (first ++ middle).utf8ByteSize := by
  obtain ⟨first, rest, whole, start⟩ := String.Pos.Raw.isValid_iff_exists_append.mp fits.start
  obtain ⟨second, last, same, stop⟩ := String.Pos.Raw.isValid_iff_exists_append.mp fits.stop
  have startByte : tree.startByte = first.utf8ByteSize := congrArg String.Pos.Raw.byteIdx start
  have endByte : tree.endByte = second.utf8ByteSize := congrArg String.Pos.Raw.byteIdx stop
  have shorter : first.utf8ByteSize ≤ second.utf8ByteSize := by
    rw [← startByte, ← endByte]
    exact fits.ordered
  obtain ⟨middle, rfl, _⟩ := cut_between (whole.symm.trans same) shorter
  exact ⟨first, middle, last, same, startByte, endByte⟩

theorem between_ok {start stop : Nat} (ordered : start ≤ stop) :
    Span.between start stop = .ok ⟨start, stop, ordered⟩ := by
  have valid : (0 : Int) ≤ start ∧ (start : Int) ≤ stop := by omega
  rw [Span.between, dif_pos valid]
  rfl

theorem spanOf_of_offsets {offsets : Offsets} {start stop : Nat}
    (first : offsets.charOffset tree.startByte = .ok start)
    (last : offsets.charOffset tree.endByte = .ok stop) (ordered : start ≤ stop) :
    offsets.spanOf tree = .ok ⟨start, stop, ordered⟩ := by
  simp only [Offsets.spanOf, first, last, bind, Except.bind, between_ok ordered]
  rfl

theorem spanOf_ok {offsets : Offsets} {span : Span} (covered : offsets.spanOf tree = .ok span) :
    offsets.charOffset tree.startByte = .ok span.start ∧
      offsets.charOffset tree.endByte = .ok span.stop := by
  obtain ⟨start, first, covered⟩ := bind_eq_ok_iff.mp covered
  obtain ⟨stop, last, covered⟩ := bind_eq_ok_iff.mp covered
  have made := mapError_eq_ok_iff.mp covered
  rw [Span.between] at made
  split at made
  next valid =>
    cases made
    exact ⟨first, last⟩
  next => cases made

theorem Fits.covered (fits : Fits text tree) :
    ∃ span, (Offsets.ofText text).spanOf tree = .ok span ∧ Covers text tree span := by
  obtain ⟨first, middle, last, rfl, startByte, endByte⟩ := fits.split
  have start : (Offsets.ofText (first ++ middle ++ last)).charOffset tree.startByte =
      .ok first.length := by
    rw [startByte, String.append_assoc]
    exact charOffset_boundary _ _
  have stop : (Offsets.ofText (first ++ middle ++ last)).charOffset tree.endByte =
      .ok (first ++ middle).length := by
    rw [endByte]
    exact charOffset_boundary _ _
  have ordered : first.length ≤ (first ++ middle).length := by
    rw [String.length_append]
    exact Nat.le_add_right _ _
  refine ⟨_, spanOf_of_offsets start stop ordered, ?_, ordered, ?_⟩
  · rw [slice_append, startByte, endByte, extract_append]
  · rw [String.length_append (t := last)]
    exact Nat.le_add_right _ _

/-- What is written with at least one byte does not end at the start of the text. -/
theorem Covers.positive {span : Span} (covers : Covers text tree span)
    (written : tree.startByte < tree.endByte) (inside : tree.endByte ≤ text.utf8ByteSize) :
    0 < span.stop := by
  apply Nat.pos_of_ne_zero
  intro early
  have bytes := congrArg ByteArray.size covers.bytes
  rw [slice, early, List.take_zero, List.drop_nil, ByteArray.size_extract] at bytes
  change 0 = min tree.endByte text.utf8ByteSize - tree.startByte at bytes
  omega

theorem Fits.covers (fits : Fits text tree) {span : Span}
    (covered : (Offsets.ofText text).spanOf tree = .ok span) : Covers text tree span := by
  obtain ⟨other, same, covers⟩ := fits.covered
  cases covered.symm.trans same
  exact covers

/-- The children that become nodes lie within the bytes of the tree, one behind the other. -/
structure Nested (tree : ParseTree) : Prop where
  within : ∀ child ∈ tree.kept, tree.startByte ≤ child.startByte ∧ child.endByte ≤ tree.endByte
  apart : tree.kept.Pairwise fun first second => first.endByte ≤ second.startByte

/-- Each node holds all nodes below it, and its children lie one behind the other. -/
structure Snug (root : Node) : Prop where
  within : ∀ cursor ∈ root.cursors, ∀ above ∈ cursor.ancestors,
    above.span.contains cursor.node.span = true
  apart : ∀ cursor ∈ root.cursors,
    cursor.node.children.Pairwise fun first second => first.span.stop ≤ second.span.start

theorem models_offsets {offsets : Offsets} {node : Node}
    (models : Models text offsets tree node) :
    offsets.charOffset tree.startByte = .ok node.span.start ∧
      offsets.charOffset tree.endByte = .ok node.span.stop := by
  cases models with
  | intro _ span _ _ => exact spanOf_ok span

theorem offset_le {first second start stop : Nat} (early : first ≤ second)
    (inside : second ≤ text.utf8ByteSize)
    (here : (Offsets.ofText text).charOffset first = .ok start)
    (there : (Offsets.ofText text).charOffset second = .ok stop) : start ≤ stop := by
  obtain ⟨_, _, firstOffset, secondOffset, ordered, _⟩ := charOffset_monotone early inside
  cases here.symm.trans firstOffset
  cases there.symm.trans secondOffset
  exact ordered

/-- On the boundaries of characters, a later byte stands for a later character. -/
theorem offset_lt {first second start stop : Nat} (early : first < second)
    (begins : String.Pos.Raw.IsValid text ⟨first⟩) (ends : String.Pos.Raw.IsValid text ⟨second⟩)
    (here : (Offsets.ofText text).charOffset first = .ok start)
    (there : (Offsets.ofText text).charOffset second = .ok stop) : start < stop := by
  obtain ⟨before, rest, whole, firstByte⟩ := String.Pos.Raw.isValid_iff_exists_append.mp begins
  obtain ⟨longer, last, same, secondByte⟩ := String.Pos.Raw.isValid_iff_exists_append.mp ends
  have firstSize : first = before.utf8ByteSize := congrArg String.Pos.Raw.byteIdx firstByte
  have secondSize : second = longer.utf8ByteSize := congrArg String.Pos.Raw.byteIdx secondByte
  obtain ⟨middle, rfl, _⟩ := cut_between (whole.symm.trans same) (by omega)
  have written : middle ≠ "" := by
    rintro rfl
    rw [String.append_empty] at secondSize
    omega
  rw [firstSize, whole, charOffset_boundary] at here
  rw [secondSize, same, charOffset_boundary] at there
  cases here
  cases there
  rw [String.length_append]
  apply Nat.lt_add_of_pos_right
  exact Nat.pos_of_ne_zero fun none => written (String.length_eq_zero_iff.mp none)

theorem contains_iff {outer inner : Span} :
    outer.contains inner = true ↔ outer.start ≤ inner.start ∧ inner.stop ≤ outer.stop := by
  simp [Span.contains]

/-- A node whose tree has its children inside has them inside too. -/
theorem models_within {node : Node} (models : Models text (.ofText text) tree node)
    (fits : Fits text tree) (below : ∀ child ∈ tree.kept, Fits text child)
    (within : ∀ child ∈ tree.kept,
      tree.startByte ≤ child.startByte ∧ child.endByte ≤ tree.endByte) :
    ∀ child ∈ node.children, node.span.contains child.span = true := by
  intro child member
  obtain ⟨part, kept, childModels⟩ := forall₂_mem models.children member
  obtain ⟨starts, ends⟩ := within part kept
  have childFits := below part kept
  have start := offset_le starts (Nat.le_trans childFits.ordered childFits.inside)
    (models_offsets models).1 (models_offsets childModels).1
  have stop := offset_le ends fits.inside (models_offsets childModels).2 (models_offsets models).2
  exact contains_iff.mpr ⟨start, stop⟩

theorem siblings_apart {trees : List ParseTree} {nodes : List Node}
    (models : List.Forall₂ (Models text (.ofText text)) trees nodes)
    (fits : ∀ part ∈ trees, Fits text part)
    (apart : trees.Pairwise fun first second => first.endByte ≤ second.startByte) :
    nodes.Pairwise fun first second => first.span.stop ≤ second.span.start := by
  induction models with
  | nil => exact .nil
  | cons first others ih =>
    obtain ⟨behind, apart⟩ := List.pairwise_cons.mp apart
    obtain ⟨_, fits⟩ := List.forall_mem_cons.mp fits
    refine .cons ?_ (ih fits apart)
    intro second member
    obtain ⟨part, later, secondModels⟩ := forall₂_mem others member
    have partFits := fits part later
    exact offset_le (behind part later) (Nat.le_trans partFits.ordered partFits.inside)
      (models_offsets first).2 (models_offsets secondModels).1

theorem contains_trans {outer middle inner : Span} (wide : outer.contains middle = true)
    (narrow : middle.contains inner = true) : outer.contains inner = true := by
  rw [contains_iff] at *
  omega

/-- What holds between each node and its children holds between it and all nodes below. -/
theorem within_all {root : Node}
    (each : ∀ cursor ∈ root.cursors, ∀ child ∈ cursor.node.children,
      cursor.node.span.contains child.span = true) :
    ∀ cursor ∈ root.cursors, ∀ above ∈ cursor.ancestors,
      above.span.contains cursor.node.span = true := by
  intro cursor member
  induction depth : cursor.ancestors.length generalizing cursor with
  | zero =>
    rw [List.eq_nil_of_length_eq_zero depth]
    exact fun _ none => by cases none
  | succ deeper ih =>
    rw [cursors_eq] at member
    rcases place_cases member with rfl | ⟨parent, parentMember, child, ancestors⟩
    · cases depth
    · rw [← cursors_eq] at parentMember
      have direct := each parent parentMember cursor.node child
      rw [ancestors, List.length_cons] at depth
      rw [ancestors, List.forall_mem_cons]
      exact ⟨direct, fun above higher => contains_trans
        (ih parent parentMember (Nat.succ.inj depth) above higher) direct⟩

theorem snug_of_models {root : Node} (fits : ∀ part ∈ reachable tree, Fits text part)
    (models : List.Forall₂ (fun part cursor => Models text (.ofText text) part cursor.node)
      (reachable tree) root.cursors)
    (nested : ∀ part ∈ reachable tree, Nested part) : Snug root := by
  have below {part : ParseTree} (member : part ∈ reachable tree) :
      ∀ child ∈ part.kept, Fits text child :=
    fun child kept => fits child (kept_mem_reachable member kept)
  constructor
  · apply within_all
    intro cursor member
    obtain ⟨part, reached, models⟩ := forall₂_mem models member
    exact models_within models (fits part reached) (below reached) (nested part reached).within
  · intro cursor member
    obtain ⟨part, reached, models⟩ := forall₂_mem models member
    exact siblings_apart models.children (below reached) (nested part reached).apart

/-- Trees that fit the text become nodes, part by part. -/
theorem fitting_models (fits : ∀ part ∈ reachable tree, Fits text part) :
    ∃ root, tree.toNode text = .ok (some root) ∧
      List.Forall₂ (fun part cursor => Models text (.ofText text) part cursor.node)
        (reachable tree) root.cursors := by
  have covered : ∀ part ∈ reachable tree,
      ∃ span, (Offsets.ofText text).spanOf part = .ok span := by
    intro part member
    obtain ⟨span, covered, _⟩ := (fits part member).covered
    exact ⟨span, covered⟩
  obtain ⟨root, made⟩ := nodeFrom_exists tree 0 covered
  have built : tree.toNode text = .ok (some root) := by
    rw [toNode_eq, made]
    rfl
  exact ⟨root, built, toNode_models built⟩

theorem parse_of_toNode {root : Node} (node : tree.toNode text = .ok (some root))
    {grammar : Grammar} {filename : String} {hasErrors : Bool}
    (read : grammar.parse? text (Text.endsWith filename ".tsx") = some ⟨tree, hasErrors⟩) :
    SourceFile.parse grammar filename text = .ok ⟨filename, text, some root, hasErrors⟩ := by
  simp only [SourceFile.parse, read, node]

/-- Each node covers the characters that are written with the bytes of its tree, and where trees lie
in each other and side by side the nodes do so too. The table of offsets and its shortcut say the
same at every byte, and neither ever goes back. -/
theorem spans_follow_bytes (text : String) (tree : ParseTree)
    (fits : ∀ part ∈ reachable tree, Fits text part) :
    (∃ root, tree.toNode text = .ok (some root) ∧
      (∀ grammar filename hasErrors,
        grammar.parse? text (Text.endsWith filename ".tsx") = some ⟨tree, hasErrors⟩ →
          SourceFile.parse grammar filename text = .ok ⟨filename, text, some root, hasErrors⟩) ∧
      List.Forall₂ (fun part cursor => Covers text part cursor.node.span) (reachable tree)
        root.cursors ∧
      ((∀ part ∈ reachable tree, Nested part) → Snug root)) ∧
      (∀ byte ≤ text.utf8ByteSize,
        (Offsets.ofText text).charOffset byte = (tabled text).charOffset byte) ∧
      ∀ first second, first ≤ second → second ≤ text.utf8ByteSize →
        ∃ start stop, (Offsets.ofText text).charOffset first = .ok start ∧
          (Offsets.ofText text).charOffset second = .ok stop ∧ start ≤ stop ∧
          stop ≤ text.length := by
  refine ⟨?_, fun byte => ofText_charOffset, fun first second => charOffset_monotone⟩
  obtain ⟨root, node, models⟩ := fitting_models fits
  refine ⟨root, node, fun _ _ _ => parse_of_toNode node, ?_, snug_of_models fits models⟩
  rw [List.forall₂_iff_get] at models ⊢
  refine ⟨models.1, fun index first second => ?_⟩
  cases models.2 index first second with
  | intro _ span _ _ => exact (fits _ (List.get_mem _ _)).covers span

/-- Two parts of a text with characters of one to four bytes, and one part within the second. -/
def mixed : ParseTree :=
  ⟨"program", true, none, 0, 10,
    [⟨"identifier", true, none, 0, 3, []⟩,
      ⟨"call_expression", true, none, 3, 10, [⟨"identifier", true, none, 6, 10, []⟩]⟩]⟩

theorem mixed_spans_follow_bytes :
    (∀ part ∈ reachable mixed, Fits "aé€😀" part) ∧ (∀ part ∈ reachable mixed, Nested part) ∧
      ∃ root, mixed.toNode "aé€😀" = .ok (some root) ∧ Snug root ∧
        List.Forall₂ (fun part cursor => Covers "aé€😀" part cursor.node.span) (reachable mixed)
          root.cursors := by
  have fits : ∀ part ∈ reachable mixed, Fits "aé€😀" part := by decide +kernel
  have nested : ∀ part ∈ reachable mixed, Nested part := by
    have spread : ∀ part ∈ reachable mixed,
        (∀ child ∈ part.kept, part.startByte ≤ child.startByte ∧ child.endByte ≤ part.endByte) ∧
          part.kept.Pairwise fun first second => first.endByte ≤ second.startByte := by
      decide +kernel
    exact fun part member => ⟨(spread part member).1, (spread part member).2⟩
  obtain ⟨⟨root, built, _, covers, snug⟩, _⟩ := spans_follow_bytes "aé€😀" mixed fits
  exact ⟨fits, nested, root, built, snug nested, covers⟩

end AngularLint.Proofs.NodeSpans
