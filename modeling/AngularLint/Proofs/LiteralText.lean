import AngularLint.Proofs.PathText

/-! Literals as a selector spells them. Such a literal ends where it was meant to end, whatever
quotes and brackets are in it, and is read as the same literal. -/

namespace AngularLint.Proofs.LiteralText
open AngularLint.Text AngularLint.Number Numerals PathText

theorem afterBracket?_closed (rest : List Char) : afterBracket? (']' :: rest) = some rest := by
  have solid : isBlank ']' = false := by decide
  simp only [afterBracket?, List.dropWhile_cons, solid, Bool.false_eq_true, if_false]

/-- What is escaped is no line feed, so that a backslash in front of it counts. -/
theorem special_next {c : Char} (special : (c == '\\' || c == '"') = true) :
    (c == '\n') = false := by
  rw [beq_eq_false_iff_ne]
  rintro rfl
  exact absurd special (by decide)

theorem takeQuoted?_escaped (value rest : List Char) :
    takeQuoted? '"' (value.flatMap Literal.escapeChar ++ '"' :: rest) =
      some (value.flatMap Literal.escapeChar ++ ['"'], rest) := by
  induction value with
  | nil => cases rest <;> simp [takeQuoted?]
  | cons c others ih =>
    rw [List.flatMap_cons, Literal.escapeChar]
    split
    next special =>
      simp [takeQuoted?, special_next special, ih]
    next plain =>
      simp only [Bool.or_eq_true, beq_iff_eq, not_or] at plain
      -- The reader looks one character ahead; the closing quote is there at the latest.
      obtain ⟨next, more, split⟩ : ∃ next more,
          others.flatMap Literal.escapeChar ++ '"' :: rest = next :: more :=
        List.exists_cons_of_ne_nil (by simp)
      rw [List.append_assoc, List.singleton_append, split, takeQuoted?, ← split, ih]
      simp [plain.1, plain.2]

theorem unescape_escaped (value : List Char) :
    unescape (value.flatMap Literal.escapeChar) = value := by
  induction value with
  | nil => rfl
  | cons c others ih =>
    rw [List.flatMap_cons, Literal.escapeChar]
    split
    next special =>
      simp [unescape, special_next special, ih]
    next plain =>
      simp only [Bool.or_eq_true, beq_iff_eq, not_or] at plain
      rw [List.singleton_append, unescape, ih]
      intro _ _ backslash
      exact absurd backslash plain.1

/-- A literal whose text tells everything about it. -/
def Printable : Literal → Prop
  | .text _ => True
  | .flag _ => True
  | .null => True
  | .int value => (Nat.toDigits 10 value.natAbs).length ≤ maxDigits
  | .float _ => False

instance : DecidablePred Printable
  | .text _ => .isTrue trivial
  | .flag _ => .isTrue trivial
  | .null => .isTrue trivial
  | .int value => inferInstanceAs (Decidable ((Nat.toDigits 10 value.natAbs).length ≤ maxDigits))
  | .float _ => .isFalse id

/-- A text that stands without quotes. -/
structure Bare (text : List Char) : Prop where
  nonempty : text ≠ []
  chars : ∀ c ∈ text, isBlank c = false ∧ c ≠ ']' ∧ c ≠ '"' ∧ c ≠ '\''

/-- The literal is found in front of a closing bracket, and read as it was. -/
structure Legible (literal : Literal) : Prop where
  solid : ∀ c, literal.shown.toList.head? = some c → isBlank c = false
  nonempty : literal.shown.toList ≠ []
  taken : ∀ after, (quotedValue? (literal.shown.toList ++ ']' :: after)).or
    (bareValue? (literal.shown.toList ++ ']' :: after)) = some (literal.shown.toList, after)
  read : ∀ text, readLiteral literal.shown.toList text = .ok literal

theorem identifierChar_bare {c : Char} (char : isIdentifierChar c = true) :
    isBlank c = false ∧ c ≠ ']' ∧ c ≠ '"' ∧ c ≠ '\'' := by
  refine ⟨identifierChar_not_blank char, ?_, ?_, ?_⟩ <;> rintro rfl <;>
    exact absurd char (by decide)

theorem word_bare {word : List Char} (identifier : isIdentifier word = true) : Bare word := by
  obtain ⟨first, rest, split, _, chars⟩ := identifier_chars identifier
  refine ⟨?_, fun c member => identifierChar_bare (chars c member)⟩
  rw [split]
  exact List.cons_ne_nil first rest

theorem Bare.unquoted {text : List Char} (bare : Bare text) :
    (text.head? == some '"' || text.head? == some '\'') = false := by
  obtain ⟨first, rest, rfl⟩ := List.exists_cons_of_ne_nil bare.nonempty
  obtain ⟨_, _, double, single⟩ := bare.chars first List.mem_cons_self
  simp [double, single]

theorem bare_taken {text : List Char} (bare : Bare text) (after : List Char) :
    (quotedValue? (text ++ ']' :: after)).or (bareValue? (text ++ ']' :: after)) =
      some (text, after) := by
  have unquoted : quotedValue? (text ++ ']' :: after) = none := by
    obtain ⟨first, rest, rfl⟩ := List.exists_cons_of_ne_nil bare.nonempty
    obtain ⟨_, _, double, single⟩ := bare.chars first List.mem_cons_self
    simp [quotedValue?, double, single]
  have inside : ∀ c ∈ text, (c != ']' && !isBlank c) = true := by
    intro c member
    obtain ⟨solid, unclosed, _⟩ := bare.chars c member
    simp [solid, unclosed]
  obtain ⟨taken, left⟩ := run_ends (']' :: after) inside (by simp)
  rw [unquoted, Option.none_or, bareValue?, taken, left]
  simp [bare.nonempty, afterBracket?_closed]

theorem bare_legible {literal : Literal} (bare : Bare literal.shown.toList)
    (read : ∀ text, readLiteral literal.shown.toList text = .ok literal) : Legible literal where
  solid c first := (bare.chars c (List.mem_of_head? first)).1
  nonempty := bare.nonempty
  taken := bare_taken bare
  read := read

theorem text_legible (value : String) : Legible (.text value) := by
  have shown : (Literal.text value).shown.toList =
      '"' :: (value.toList.flatMap Literal.escapeChar ++ ['"']) := by
    rw [Literal.shown, String.toList_ofList, List.cons_append]
  refine ⟨?_, ?_, ?_, ?_⟩
  · intro c first
    rw [shown] at first
    cases first
    decide
  · simp [shown]
  · intro after
    have quoted : quotedValue? ((Literal.text value).shown.toList ++ ']' :: after) =
        some ((Literal.text value).shown.toList, after) := by
      rw [shown, List.cons_append, List.append_assoc, List.singleton_append]
      simp [quotedValue?, takeQuoted?_escaped, afterBracket?_closed]
    rw [quoted, Option.some_or]
  · intro text
    simp [readLiteral, shown, unescape_escaped]

theorem int_bare (value : Int) : Bare (toString value).toList := by
  rw [toList_toString]
  refine ⟨List.append_ne_nil_of_right_ne_nil _ Nat.toDigits_ne_nil, ?_⟩
  intro c member
  rcases mem_signed member with rfl | digit
  · decide
  · exact identifierChar_bare (identifierChar_iff.mpr (.inr digit))

theorem int_legible {value : Int} (short : (Nat.toDigits 10 value.natAbs).length ≤ maxDigits) :
    Legible (.int value) := by
  have read := readInteger_toString value short
  -- The words are no numbers, so the text of a number is none of them.
  have other (word : String) (fault : NumeralFault) (no : readInteger word = .error fault) :
      (toString value == word) = false := by
    rw [beq_eq_false_iff_ne]
    rintro rfl
    rw [read] at no
    cases no
  refine bare_legible (int_bare value) ?_
  intro text
  simp only [readLiteral, Literal.shown, (int_bare value).unquoted, String.ofList_toList,
    other "true" (.malformed "true") (by decide +kernel),
    other "false" (.malformed "false") (by decide +kernel),
    other "null" (.malformed "null") (by decide +kernel), Bool.false_eq_true, if_false, read]

theorem printable_legible {literal : Literal} (printable : Printable literal) :
    Legible literal := by
  cases literal with
  | text value => exact text_legible value
  | flag value =>
    cases value
    · exact bare_legible (word_bare (by decide)) fun _ => rfl
    · exact bare_legible (word_bare (by decide)) fun _ => rfl
  | null => exact bare_legible (word_bare (by decide)) fun _ => rfl
  | int value => exact int_legible printable
  | float value => cases printable

end AngularLint.Proofs.LiteralText
