import AngularLint.Proofs.Numerals
import AngularLint.Proofs.Outcomes
import AngularLint.Selector.Reader

/-! Attribute paths as a selector spells them. A path that was read has steps, and its names are
identifiers. The dotted text of such a path is read as the same path. -/

namespace AngularLint.Proofs.PathText
open AngularLint.Text AngularLint.Number Numerals Outcomes

theorem identifierStart_range {c : Char} (start : isIdentifierStart c = true) :
    65 ≤ c.toNat ∧ c.toNat ≤ 90 ∨ c.toNat = 95 ∨ 97 ≤ c.toNat ∧ c.toNat ≤ 122 := by
  have spelled : (decide (65 ≤ c.val ∧ c.val ≤ 90) ||
      (decide (97 ≤ c.val) && decide (c.val ≤ 122)) || c == '_') = true := start
  simp only [Bool.or_eq_true, Bool.and_eq_true, decide_eq_true_eq, UInt32.le_iff_toNat_le,
    beq_iff_eq] at spelled
  rcases spelled with (upper | lower) | rfl
  · exact .inl upper
  · exact .inr (.inr lower)
  · exact .inr (.inl rfl)

theorem identifierChar_iff {c : Char} :
    isIdentifierChar c = true ↔ isIdentifierStart c = true ∨ c.isDigit = true := by
  simp only [isIdentifierChar, isIdentifierStart, Char.isAlphanum, Bool.or_eq_true]
  exact or_right_comm

theorem identifierChar_range {c : Char} (char : isIdentifierChar c = true) :
    48 ≤ c.toNat ∧ c.toNat ≤ 57 ∨ 65 ≤ c.toNat ∧ c.toNat ≤ 90 ∨ c.toNat = 95 ∨
      97 ≤ c.toNat ∧ c.toNat ≤ 122 := by
  rcases identifierChar_iff.mp char with start | digit
  · exact .inr (identifierStart_range start)
  · exact .inl (digit_range digit)

theorem identifierChar_not_blank {c : Char} (char : isIdentifierChar c = true) :
    isBlank c = false := by
  have range := identifierChar_range char
  exact not_blank (by omega) (by omega)

/-- No letter is a digit of any script. -/
theorem isDigit_of_start {c : Char} (start : isIdentifierStart c = true) :
    Text.isDigit c = false := by
  have range := identifierStart_range start
  -- Behind the ASCII digits, all tables of digits start past the letters.
  have rows : ∀ first ∈ decimalZeros, first = 0x30 ∨ 0x660 ≤ first := by decide
  have others : ∀ range ∈ otherDigitRanges, 0xb2 ≤ range.1 := by decide
  have decimal : isDecimal c = false := by
    rw [isDecimal, decimalValue?, Option.isSome_map, ← Bool.not_eq_true, List.find?_isSome]
    rintro ⟨first, member, inside⟩
    have row := rows first member
    simp only [Bool.and_eq_true, decide_eq_true_eq] at inside
    omega
  have figure : inRanges otherDigitRanges c.toNat = false := by
    rw [inRanges, List.any_eq_false]
    intro range member
    have bound := others range member
    simp only [Bool.and_eq_true, decide_eq_true_eq]
    omega
  rw [Text.isDigit, decimal, figure]
  rfl

/-- The name of an attribute is an identifier. -/
def Named : Segment → Prop
  | .name key => isIdentifier key.toList = true
  | .position _ => True

/-- A position has not more digits than can be read. -/
def Short : Segment → Prop
  | .name _ => True
  | .position index => (Nat.toDigits 10 index).length ≤ maxDigits

instance : DecidablePred Short
  | .name _ => .isTrue trivial
  | .position index => inferInstanceAs (Decidable ((Nat.toDigits 10 index).length ≤ maxDigits))

theorem identifier_chars {text : List Char} (identifier : isIdentifier text = true) :
    ∃ first rest, text = first :: rest ∧ isIdentifierStart first = true ∧
      ∀ c ∈ text, isIdentifierChar c = true := by
  cases text with
  | nil => cases identifier
  | cons first rest =>
    obtain ⟨start, later⟩ := (Bool.and_eq_true _ _).mp identifier
    refine ⟨first, rest, rfl, start, List.forall_mem_cons.mpr ⟨?_, List.all_eq_true.mp later⟩⟩
    exact identifierChar_iff.mpr (.inl start)

theorem segment_chars {segment : Segment} (named : Named segment) :
    segment.text.toList ≠ [] ∧ ∀ c ∈ segment.text.toList, isIdentifierChar c = true := by
  cases segment with
  | name key =>
    obtain ⟨first, rest, split, _, chars⟩ := identifier_chars named
    exact ⟨fun none => List.cons_ne_nil first rest (split.symm.trans none), chars⟩
  | position index =>
    have written : (Segment.position index).text.toList = Nat.toDigits 10 index := Nat.toList_repr
    rw [written]
    exact ⟨Nat.toDigits_ne_nil, fun c member =>
      identifierChar_iff.mpr (.inr (toDigits_digits c member))⟩

theorem position_decimals (index : Nat) :
    (Segment.position index).text.toList.all isDecimal = true := by
  rw [List.all_eq_true]
  intro c member
  rw [isDecimal, decimalValue?_digit (toDigits_digits c (Nat.toList_repr ▸ member))]
  rfl

theorem digits_of_decimals {text : List Char} (decimals : text.all isDecimal = true) :
    text.all Text.isDigit = true := by
  rw [List.all_eq_true] at decimals ⊢
  intro c member
  rw [Text.isDigit, decimals c member, Bool.true_or]

private theorem nonempty_text {text : String} (nonempty : text.toList ≠ []) :
    text.isEmpty = false := by
  rw [← Bool.not_eq_true, String.isEmpty_iff]
  rintro rfl
  exact nonempty rfl

theorem segment_read {segment : Segment} (named : Named segment) (short : Short segment) :
    Segment.read segment.text = .ok segment := by
  cases segment with
  | name key =>
    obtain ⟨first, rest, split, start, _⟩ := identifier_chars named
    have letters : key.toList.all Text.isDigit = false := by
      rw [split, List.all_cons, isDigit_of_start start, Bool.false_and]
    simp only [Segment.read, Segment.text, letters, Bool.and_false, Bool.false_eq_true, if_false]
  | position index =>
    have digits := digits_of_decimals (position_decimals index)
    have read : readInteger (Segment.position index).text = .ok (Int.ofNat index) :=
      readInteger_signed false Nat.toList_repr short
    rw [Segment.read, nonempty_text (segment_chars named).1, digits, read]
    rfl

theorem segment_part {segment : Segment} (named : Named segment) :
    isPathPart segment.text = true := by
  cases segment with
  | name key =>
    rw [isPathPart, Bool.or_eq_true]
    exact .inl named
  | position index =>
    rw [isPathPart, nonempty_text (segment_chars named).1, position_decimals, Bool.or_eq_true]
    exact .inr rfl

/-- A path as one can be read: it has steps, and its names are identifiers. -/
structure Proper (path : AttributePath) : Prop where
  nonempty : path ≠ []
  named : ∀ segment ∈ path, Named segment

theorem pathText_eq (path : AttributePath) :
    path.text.toList = ['.'].intercalate (path.map fun segment => segment.text.toList) := by
  rw [AttributePath.text, join, String.toList_intercalate, List.map_map]
  rfl

/-- The parts between the points are the texts of the steps. -/
theorem splitOn_pathText {path : AttributePath} (proper : Proper path) :
    splitOn path.text '.' = path.map Segment.text := by
  have pointless : ∀ part ∈ path.map (fun segment => segment.text.toList), '.' ∉ part := by
    rw [List.forall_mem_map]
    intro segment member point
    exact absurd ((segment_chars (proper.named segment member)).2 '.' point) (by decide)
  rw [splitOn, pathText_eq, List.splitOn_intercalate '.' pointless (by simpa using proper.nonempty),
    List.map_map]
  apply List.map_congr_left
  intro segment _
  exact String.ofList_toList

theorem readPath_text {path : AttributePath} (proper : Proper path)
    (short : ∀ segment ∈ path, Short segment) (text : String) :
    readPath path.text text = .ok path := by
  have parts : (path.map Segment.text).all isPathPart = true := by
    rw [List.all_eq_true, List.forall_mem_map]
    exact fun segment member => segment_part (proper.named segment member)
  have segments : (path.map Segment.text).mapM Segment.read = .ok path := by
    rw [mapM_eq_ok_iff, List.forall₂_map_left_iff, List.forall₂_same]
    exact fun segment member => segment_read (proper.named segment member) (short segment member)
  rw [readPath, AttributePath.read, splitOn_pathText proper, if_pos parts, segments]
  rfl

theorem mem_pathText {path : AttributePath} {c : Char} (member : c ∈ path.text.toList) :
    c = '.' ∨ ∃ segment ∈ path, c ∈ segment.text.toList := by
  rw [pathText_eq] at member
  rcases mem_intercalate member with point | ⟨part, inside, there⟩
  · exact .inl point
  · obtain ⟨segment, step, rfl⟩ := List.mem_map.mp inside
    exact .inr ⟨segment, step, there⟩

theorem pathText_chars {path : AttributePath} (proper : Proper path) :
    path.text.toList ≠ [] ∧
      ∀ c ∈ path.text.toList, isBlank c = false ∧ c ≠ ']' ∧ c ≠ '=' := by
  constructor
  · intro none
    obtain ⟨segment, rest, rfl⟩ := List.exists_cons_of_ne_nil proper.nonempty
    have first := (segment_chars (proper.named segment List.mem_cons_self)).1
    rw [pathText_eq, List.map_cons] at none
    cases rest with
    | nil => exact first (by simpa using none)
    | cons next others => simp [List.intercalate_cons_cons] at none
  · intro c member
    rcases mem_pathText member with rfl | ⟨segment, inside, there⟩
    · decide
    · have char := (segment_chars (proper.named segment inside)).2 c there
      refine ⟨identifierChar_not_blank char, ?_, ?_⟩ <;> rintro rfl <;>
        exact absurd char (by decide)

theorem segment_named {part : String} {segment : Segment} (isPart : isPathPart part = true)
    (read : Segment.read part = .ok segment) : Named segment := by
  rw [Segment.read] at read
  split at read
  next =>
    obtain ⟨index, _, rfl⟩ := map_eq_ok_iff.mp read
    trivial
  next other =>
    cases read
    rcases (Bool.or_eq_true _ _).mp isPart with identifier | decimals
    · exact identifier
    · -- A run of decimal digits would have been read as a position.
      obtain ⟨filled, all⟩ := (Bool.and_eq_true _ _).mp decimals
      exact absurd (by rw [filled, digits_of_decimals all]; rfl) other

theorem readPath_proper {written text : String} {path : AttributePath}
    (read : readPath written text = .ok path) : Proper path := by
  rw [readPath] at read
  split at read
  next parts =>
    have each := mapError_eq_ok_iff.mp read
    constructor
    · rintro rfl
      have none := List.forall₂_nil_right_iff.mp (mapM_eq_ok_iff.mp each)
      simp [splitOn] at none
    · intro segment member
      obtain ⟨part, inside, made⟩ := mem_of_mapM_eq_ok each member
      exact segment_named (List.all_eq_true.mp parts part inside) made
  next => cases read

end AngularLint.Proofs.PathText
