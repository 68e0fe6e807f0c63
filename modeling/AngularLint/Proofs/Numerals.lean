import AngularLint.Number.Numeral
import Mathlib.Data.List.TakeWhile

/-! Reading back the decimal form of a whole number. -/

namespace AngularLint.Proofs.Numerals
open AngularLint.Text AngularLint.Number

theorem dropWhile_of_head {p : Char → Bool} {text : List Char}
    (head : ∀ c, text.head? = some c → p c = false) : text.dropWhile p = text := by
  cases text with
  | nil => rfl
  | cons c rest => rw [List.dropWhile_cons_of_neg (Bool.eq_false_iff.mp (head c rfl))]

theorem dropWhile_append_of_head {p : Char → Bool} {text : List Char} (rest : List Char)
    (nonempty : text ≠ []) (head : ∀ c, text.head? = some c → p c = false) :
    (text ++ rest).dropWhile p = text ++ rest := by
  obtain ⟨first, more, rfl⟩ := List.exists_cons_of_ne_nil nonempty
  exact dropWhile_of_head fun c same => head c same

/-- A run of characters of one class ends where a character of another follows. -/
theorem run_ends {p : Char → Bool} {run : List Char} (rest : List Char)
    (all : ∀ c ∈ run, p c = true) (stops : ∀ c, rest.head? = some c → p c = false) :
    (run ++ rest).takeWhile p = run ∧ (run ++ rest).dropWhile p = rest := by
  rw [List.takeWhile_append_of_pos all, List.dropWhile_append_of_pos all, dropWhile_of_head stops]
  cases rest with
  | nil => simp
  | cons c rest => simp [stops c rfl]

theorem mem_intercalate {separator c : Char} {parts : List (List Char)}
    (member : c ∈ [separator].intercalate parts) : c = separator ∨ ∃ part ∈ parts, c ∈ part := by
  induction parts with
  | nil => cases member
  | cons part rest ih =>
    cases rest with
    | nil => exact .inr ⟨part, List.mem_cons_self, by simpa using member⟩
    | cons next others =>
      simp only [List.intercalate_cons_cons, List.mem_append, List.mem_singleton] at member
      rcases member with (here | between) | later
      · exact .inr ⟨part, List.mem_cons_self, here⟩
      · exact .inl between
      · rcases ih later with between | ⟨other, inside, there⟩
        · exact .inl between
        · exact .inr ⟨other, List.mem_cons_of_mem _ inside, there⟩

theorem infix_intercalate {separator : Char} {parts : List (List Char)} {part : List Char}
    (member : part ∈ parts) : part <:+: [separator].intercalate parts := by
  induction parts with
  | nil => cases member
  | cons first rest ih =>
    cases rest with
    | nil =>
      cases List.mem_singleton.mp member
      simp [List.intercalate_singleton]
    | cons next others =>
      rw [List.intercalate_cons_cons]
      rcases List.mem_cons.mp member with rfl | later
      · exact ((List.prefix_append _ _).trans (List.prefix_append _ _)).isInfix
      · exact (ih later).trans (List.suffix_append _ _).isInfix

/-- A text without blanks at its ends is not shortened. -/
theorem strip_of_ends {text : String} (first : ∀ c, text.toList.head? = some c → isBlank c = false)
    (last : ∀ c, text.toList.getLast? = some c → isBlank c = false) : strip text = text := by
  have back : text.toList.reverse.dropWhile isBlank = text.toList.reverse :=
    dropWhile_of_head fun c head => last c (List.head?_reverse ▸ head)
  rw [strip, dropWhile_of_head first, back, List.reverse_reverse, String.ofList_toList]

theorem digit_range {c : Char} (digit : c.isDigit = true) : 48 ≤ c.toNat ∧ c.toNat ≤ 57 := by
  simpa [Char.isDigit, UInt32.le_iff_toNat_le] using digit

theorem decimalValue?_digit {c : Char} (digit : c.isDigit = true) :
    decimalValue? c = some (c.toNat - '0'.toNat) := by
  have range := digit_range digit
  obtain ⟨others, rows⟩ : ∃ others, decimalZeros = 0x30 :: others := ⟨_, rfl⟩
  have here : (decide (0x30 ≤ c.toNat) && decide (c.toNat < 0x30 + 10)) = true := by
    simp only [Bool.and_eq_true, decide_eq_true_eq]
    omega
  simp only [decimalValue?, rows, List.find?_cons, here, Option.map_some]
  rfl

theorem not_blank {c : Char} (low : 0x20 < c.toNat) (high : c.toNat < 0x85) :
    isBlank c = false := by
  simp only [isBlank, inRanges, blankRanges, List.any_cons, List.any_nil, Bool.or_false,
    Bool.or_eq_false_iff, Bool.and_eq_false_iff, decide_eq_false_iff_not]
  omega

theorem digit_not_blank {c : Char} (digit : c.isDigit = true) : isBlank c = false := by
  have range := digit_range digit
  exact not_blank (by omega) (by omega)

theorem takeDigits_digits {digits : List Char} (all : ∀ c ∈ digits, c.isDigit = true) :
    takeDigits digits = (digits.map fun c => c.toNat - '0'.toNat, []) := by
  induction digits with
  | nil => rfl
  | cons c rest ih =>
    have later := ih fun other member => all other (List.mem_cons_of_mem _ member)
    have value := decimalValue?_digit (all c List.mem_cons_self)
    cases rest with
    | nil => simp only [takeDigits, value, List.map_cons, List.map_nil]
    | cons next rest =>
      have joined : (next == '_') = false := by
        rw [beq_eq_false_iff_ne]
        rintro rfl
        exact absurd (all '_' (by simp)) (by decide)
      simp only [takeDigits, value, joined, Bool.false_and, Bool.false_eq_true, if_false, later,
        List.map_cons]

theorem ofDigits_toDigits (n : Nat) :
    ofDigits ((Nat.toDigits 10 n).map fun c => c.toNat - '0'.toNat) = n := by
  have value := @Nat.ofDigitChars_ten_toDigits n
  rw [Nat.ofDigitChars_eq_foldl] at value
  rw [ofDigits, List.foldl_map]
  simpa only [Nat.mul_comm] using value

theorem takeSign_digits {digits : List Char} (all : ∀ c ∈ digits, c.isDigit = true) :
    takeSign digits = (false, digits) := by
  rw [takeSign.eq_def]
  split
  · exact absurd (all '-' List.mem_cons_self) (by decide)
  · exact absurd (all '+' List.mem_cons_self) (by decide)
  · rfl

theorem toDigits_digits {n : Nat} : ∀ c ∈ Nat.toDigits 10 n, c.isDigit = true :=
  fun _ member => Nat.isDigit_of_mem_toDigits (by decide) (by decide) member

/-- The digits of a number with its sign in front. -/
def signed (negative : Bool) (n : Nat) : List Char :=
  (if negative then ['-'] else []) ++ Nat.toDigits 10 n

theorem mem_signed {negative : Bool} {n : Nat} {c : Char} (member : c ∈ signed negative n) :
    c = '-' ∨ c.isDigit = true := by
  rcases List.mem_append.mp member with sign | digit
  · cases negative
    · cases sign
    · exact .inl (List.mem_singleton.mp sign)
  · exact .inr (toDigits_digits c digit)

theorem toList_toString (value : Int) :
    (toString value).toList = signed (decide (value < 0)) value.natAbs := by
  cases value with
  | ofNat n => exact Nat.toList_repr
  | negSucc n =>
    have written : (toString (Int.negSucc n)).toList = ['-'] ++ Nat.toDigits 10 (n + 1) := by
      rw [← Nat.toList_repr]
      exact String.toList_append
    rw [written, signed, decide_eq_true (Int.negSucc_lt_zero n)]
    rfl

theorem readInteger_signed (negative : Bool) {text : String} {n : Nat}
    (written : text.toList = signed negative n)
    (short : (Nat.toDigits 10 n).length ≤ maxDigits) :
    readInteger text = .ok (if negative then -Int.ofNat n else Int.ofNat n) := by
  have solid : ∀ c ∈ text.toList, isBlank c = false := by
    intro c member
    rcases mem_signed (written ▸ member) with rfl | digit
    · decide
    · exact digit_not_blank digit
  have whole : strip text = text := strip_of_ends
    (fun c first => solid c (List.mem_of_head? first))
    (fun c last => solid c (List.mem_of_getLast? last))
  have sign : takeSign text.toList = (negative, Nat.toDigits 10 n) := by
    rw [written]
    cases negative
    · exact takeSign_digits toDigits_digits
    · rfl
  have some : (Nat.toDigits 10 n).isEmpty = false := by
    rw [List.isEmpty_eq_false_iff]
    exact Nat.toDigits_ne_nil
  have few : ¬ (Nat.toDigits 10 n).length > maxDigits := Nat.not_lt.mpr short
  simp only [readInteger, whole, sign, takeDigits_digits toDigits_digits, List.length_map, few,
    if_false, List.isEmpty_map, some, List.isEmpty_nil, Bool.not_true, Bool.or_self,
    Bool.false_eq_true, ofDigits_toDigits]

/-- A number with not too many digits is read back from its decimal form. -/
theorem readInteger_toString (value : Int)
    (short : (Nat.toDigits 10 value.natAbs).length ≤ maxDigits) :
    readInteger (toString value) = .ok value := by
  rw [readInteger_signed _ (toList_toString value) short]
  cases value with
  | ofNat n => rfl
  | negSucc n =>
    rw [decide_eq_true (Int.negSucc_lt_zero n)]
    rfl

end AngularLint.Proofs.Numerals
