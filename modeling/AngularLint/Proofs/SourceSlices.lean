import AngularLint.Proofs.NodeSpans

/-! What a node reads from the source. In a range that holds characters it reads just those, and
ranges that adjoin add up. In an empty range it reads its own text, so there nothing adds up unless
that text is empty too. A range with too many characters to count cannot be read. -/

namespace AngularLint.Proofs.SourceSlices
open AngularLint.Text

/-- What stands in a range of a text, as far as the text goes. -/
def Excerpt (text : String) (span : Span) (part : String) : Prop :=
  ∃ before after : List Char, text.toList = before ++ part.toList ++ after ∧
    before.length = min span.start text.length ∧
    (before ++ part.toList).length = min span.stop text.length

variable {node : Node} {text part : String} {span : Span}

theorem excerpt_slice (text : String) (span : Span) :
    Excerpt text span (slice text span.start span.stop) := by
  have ordered := span.ordered
  have first : (text.toList.take span.start) ++ (slice text span.start span.stop).toList =
      text.toList.take span.stop := by
    rw [slice, String.toList_ofList, ← Nat.min_eq_left ordered, ← List.take_take,
      Nat.min_eq_left ordered, List.take_append_drop]
  refine ⟨text.toList.take span.start, text.toList.drop span.stop, ?_, ?_, ?_⟩
  · rw [first, List.take_append_drop]
  · rw [List.length_take, String.length_toList]
  · rw [first, List.length_take, String.length_toList]

theorem Excerpt.unique {other : String} (one : Excerpt text span part)
    (another : Excerpt text span other) : part = other := by
  obtain ⟨before, after, split, start, stop⟩ := one
  obtain ⟨before', after', split', start', stop'⟩ := another
  have whole : before ++ part.toList ++ after = before' ++ other.toList ++ after' :=
    split.symm.trans split'
  obtain ⟨fronts, _⟩ := List.append_inj whole (stop.trans stop'.symm)
  exact String.toList_injective (List.append_inj fronts (start.trans start'.symm)).2

theorem excerpt_iff : Excerpt text span part ↔ part = slice text span.start span.stop := by
  constructor
  · intro excerpt
    exact excerpt.unique (excerpt_slice text span)
  · rintro rfl
    exact excerpt_slice text span

/-- Ranges that adjoin add up. -/
theorem slice_add (text : String) {start middle stop : Nat} (first : start ≤ middle)
    (second : middle ≤ stop) :
    slice text start middle ++ slice text middle stop = slice text start stop := by
  apply String.toList_injective
  rw [String.toList_append, slice, slice, slice, String.toList_ofList, String.toList_ofList,
    String.toList_ofList, ← Nat.min_eq_left second, ← List.take_take, Nat.min_eq_left second,
    List.drop_take]
  have behind : (text.toList.take stop).drop middle =
      ((text.toList.take stop).drop start).drop (middle - start) := by
    rw [List.drop_drop, Nat.add_sub_cancel' first]
  rw [behind, List.take_append_drop]

theorem slice_empty (text : String) (offset : Nat) : slice text offset offset = "" := by
  apply String.toList_injective
  rw [slice, String.toList_ofList]
  exact List.drop_eq_nil_of_le (List.length_take_le _ _)

theorem sourceText_uncountable (long : Number.wordBound ≤ span.length) :
    node.sourceText text span = .error ⟨span⟩ := by
  rw [Node.sourceText, Span.count, if_neg (Nat.not_lt.mpr long)]
  rfl

theorem sourceText_empty (empty : span.start = span.stop) :
    node.sourceText text span = .ok (node.textIn text) := by
  have none : span.length = 0 := by
    rw [Span.length, empty, Nat.sub_self]
  rw [Node.sourceText, Span.count, none]
  rfl

theorem sourceText_filled (filled : span.start < span.stop)
    (short : span.length < Number.wordBound) :
    node.sourceText text span = .ok (slice text span.start span.stop) := by
  have some : (span.length == 0) = false := by
    rw [beq_eq_false_iff_ne, Span.length]
    omega
  rw [Node.sourceText, Span.count, if_pos short]
  simp only [Except.map, some, Bool.false_eq_true, if_false]

/-- What a node reads in a range that can be counted. -/
def readIn (node : Node) (text : String) (start stop : Nat) : String :=
  if start = stop then node.textIn text else slice text start stop

theorem sourceText_short (short : span.length < Number.wordBound) :
    node.sourceText text span = .ok (readIn node text span.start span.stop) := by
  rw [readIn]
  split
  next empty => exact sourceText_empty empty
  next filled => exact sourceText_filled (Nat.lt_of_le_of_ne span.ordered filled) short

theorem readIn_excerpt :
    Excerpt text span (readIn node text span.start span.stop) ↔
      span.start < span.stop ∨ node.textIn text = "" := by
  rw [excerpt_iff, readIn]
  split
  next empty => simp [empty, slice_empty]
  next filled => simp [Nat.lt_of_le_of_ne span.ordered filled]

theorem readIn_add {start middle stop : Nat} (first : start ≤ middle) (second : middle ≤ stop) :
    readIn node text start middle ++ readIn node text middle stop = readIn node text start stop ↔
      (start < middle ∧ middle < stop) ∨ node.textIn text = "" := by
  rcases Nat.eq_or_lt_of_le first with rfl | early
  · simp [readIn]
  · rcases Nat.eq_or_lt_of_le second with rfl | late
    · simp [readIn]
    · simp [readIn, Nat.ne_of_lt, early, late, Nat.lt_trans early late, slice_add text first second]

/-- A node reads just what stands in a range, and adjoining ranges add up, as long as the ranges can
be counted and none of them is empty. In an empty range it reads its own text instead. -/
theorem ranges_read_unless_empty (node : Node) (text : String) :
    Excerpt text node.span (node.textIn text) ∧
      (∀ span, Number.wordBound ≤ span.length → node.sourceText text span = .error ⟨span⟩) ∧
      (∀ span, span.length < Number.wordBound →
        ∃ part, node.sourceText text span = .ok part ∧
          (span.start = span.stop → part = node.textIn text) ∧
          (Excerpt text span part ↔ span.start < span.stop ∨ node.textIn text = "")) ∧
      ∀ start middle stop (first : start ≤ middle) (second : middle ≤ stop),
        stop - start < Number.wordBound →
        ∃ left right whole, node.sourceText text ⟨start, middle, first⟩ = .ok left ∧
          node.sourceText text ⟨middle, stop, second⟩ = .ok right ∧
          node.sourceText text ⟨start, stop, Nat.le_trans first second⟩ = .ok whole ∧
          (left ++ right = whole ↔ (start < middle ∧ middle < stop) ∨ node.textIn text = "") := by
  refine ⟨excerpt_slice text node.span, fun span => sourceText_uncountable, ?_, ?_⟩
  · intro span short
    exact ⟨_, sourceText_short short, fun empty => if_pos empty, readIn_excerpt⟩
  · intro start middle stop first second short
    have left : middle - start < Number.wordBound := by omega
    have right : stop - middle < Number.wordBound := by omega
    exact ⟨_, _, _, sourceText_short left, sourceText_short right, sourceText_short short,
      readIn_add first second⟩

def nameStatement : ParseTree :=
  ⟨"program", true, none, 0, 2,
    [⟨"expression_statement", true, none, 0, 2, [⟨"identifier", true, none, 0, 2, []⟩]⟩]⟩

def namedNode : Node :=
  ⟨"identifier", 2, ⟨0, 2, Nat.zero_le 2⟩, ⟨[("text", .text "ab")]⟩, []⟩

def namedRoot : Node :=
  ⟨"program", 0, ⟨0, 2, Nat.zero_le 2⟩, ⟨[("expression_statement", .child 0)]⟩,
    [⟨"expression_statement", 1, ⟨0, 2, Nat.zero_le 2⟩, ⟨[("identifier", .child 0)]⟩, [namedNode]⟩]⟩

/-- The empty range before the last letter reads as the whole name. -/
theorem empty_range_reads_node :
    SourceFile.parse ⟨fun _ _ => some ⟨nameStatement, false⟩⟩ "a.ts" "ab" =
        .ok ⟨"a.ts", "ab", some namedRoot, false⟩ ∧
      namedRoot.sourceText "ab" (.point 1) = .ok "ab" ∧
      namedRoot.sourceText "ab" ⟨1, 2, Nat.le_succ 1⟩ = .ok "b" ∧
      ¬ Excerpt "ab" (.point 1) "ab" ∧ "ab" ++ "b" ≠ "b" := by
  have built : nameStatement.toNode "ab" = .ok (some namedRoot) := by
    rw [NodeBuild.toNode_eq]
    rfl
  refine ⟨NodeSpans.parse_of_toNode built rfl, by decide +kernel, by decide +kernel, ?_, by decide⟩
  rw [excerpt_iff]
  decide +kernel

end AngularLint.Proofs.SourceSlices
