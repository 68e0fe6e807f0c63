import AngularLint.Proofs.LiteralText

/-! The texts of numbers. The readers of whole numbers and of doubles accept the texts of this
grammar and no others, and give the number that the text spells. -/

namespace AngularLint.Proofs.NumeralGrammar
open AngularLint.Text AngularLint.Number Numerals PathText LiteralText

/-- A run of digits of any script, perhaps empty, and their values. One underscore may stand
between two digits. -/
inductive Digits : List Char → List Nat → Prop where
  | none : Digits [] []
  | next {c : Char} {value : Nat} {text : List Char} {values : List Nat}
      (digit : decimalValue? c = some value) (later : Digits text values) :
      Digits (c :: text) (value :: values)
  | joined {c : Char} {value : Nat} {text : List Char} {values : List Nat}
      (digit : decimalValue? c = some value) (later : Digits text values) (filled : text ≠ []) :
      Digits (c :: '_' :: text) (value :: values)

/-- A text with a sign in front of it or none. -/
inductive Signed (body : List Char) : Bool → List Char → Prop where
  | bare : Signed body false body
  | plus : Signed body false ('+' :: body)
  | minus : Signed body true ('-' :: body)

def Whole (text : List Char) (negative : Bool) (digits : List Nat) : Prop :=
  ∃ body, Signed body negative text ∧ Digits body digits ∧ body ≠ []

def signedValue (negative : Bool) (digits : List Nat) : Int :=
  if negative then -Int.ofNat (ofDigits digits) else Int.ofNat (ofDigits digits)

inductive Fraction : List Char → List Nat → Prop where
  | none : Fraction [] []
  | point {text : List Char} {values : List Nat} (digits : Digits text values) :
      Fraction ('.' :: text) values

inductive Exponent : List Char → Int → Prop where
  | none : Exponent [] 0
  | marked {c : Char} {text : List Char} {negative : Bool} {digits : List Nat}
      (mark : c = 'e' ∨ c = 'E') (whole : Whole text negative digits) :
      Exponent (c :: text) (signedValue negative digits)

/-- Digits with or without a point and an exponent; a digit stands before or behind the point. -/
inductive Decimal (negative : Bool) : List Char → Float → Prop where
  | mk {first point last : List Char} {values places : List Nat} {power : Int}
      (digits : Digits first values) (fraction : Fraction point places)
      (exponent : Exponent last power) (filled : values ≠ [] ∨ places ≠ []) :
      Decimal negative (first ++ (point ++ last))
        (decimalFloat negative (values ++ places) (power - Int.ofNat places.length))

inductive Unsigned (negative : Bool) (text : List Char) : Float → Prop where
  | infinite (name : text.map Char.toLower = "inf".toList ∨
      text.map Char.toLower = "infinity".toList) : Unsigned negative text (infinity negative)
  | notANumber (name : text.map Char.toLower = "nan".toList) :
      Unsigned negative text notANumber
  | decimal {value : Float} (decimal : Decimal negative text value) : Unsigned negative text value

/-- The text of a double. -/
def Floating (text : List Char) (value : Float) : Prop :=
  ∃ negative body, Signed body negative text ∧ Unsigned negative body value

/-- A character that may stand outside quotes. -/
def Plain (c : Char) : Prop :=
  isBlank c = false ∧ c ≠ ']' ∧ c ≠ '"' ∧ c ≠ '\''

instance (c : Char) : Decidable (Plain c) :=
  inferInstanceAs (Decidable (isBlank c = false ∧ c ≠ ']' ∧ c ≠ '"' ∧ c ≠ '\''))

/-- No digit comes first, and no underscore that could join one. -/
def Stops (rest : List Char) : Prop :=
  ∀ c, rest.head? = some c → decimalValue? c = none ∧ c ≠ '_'

theorem isDecimal_of_value {c : Char} {value : Nat} (digit : decimalValue? c = some value) :
    isDecimal c = true := by
  rw [isDecimal, digit]
  rfl

/-- The digits of every script lie outside the blanks and apart from the marks of a text. -/
theorem decimal_bare {c : Char} (decimal : isDecimal c = true) :
    Plain c ∧ c ≠ '_' ∧ c ≠ '+' ∧ c ≠ '-' ∧ c ≠ '.' ∧ c ≠ '=' := by
  have apart : ∀ first ∈ decimalZeros, ∀ range ∈ blankRanges,
      first + 9 < range.1 ∨ range.2 < first := by decide
  have solid : isBlank c = false := by
    rw [isBlank, inRanges, List.any_eq_false]
    intro range member
    rw [isDecimal, decimalValue?, Option.isSome_map, List.find?_isSome] at decimal
    obtain ⟨first, row, inside⟩ := decimal
    have disjoint := apart first row range member
    simp only [Bool.and_eq_true, decide_eq_true_eq] at inside ⊢
    omega
  refine ⟨⟨solid, ?_, ?_, ?_⟩, ?_, ?_, ?_, ?_, ?_⟩ <;> rintro rfl <;>
    exact absurd decimal (by decide +kernel)

theorem Digits.head {text : List Char} {values : List Nat} (digits : Digits text values) {c : Char}
    (first : text.head? = some c) : isDecimal c = true := by
  cases digits with
  | none => cases first
  | next digit _ =>
    cases first
    exact isDecimal_of_value digit
  | joined digit _ _ =>
    cases first
    exact isDecimal_of_value digit

theorem Digits.chars {text : List Char} {values : List Nat} (digits : Digits text values) :
    ∀ c ∈ text, isDecimal c = true ∨ c = '_' := by
  induction digits with
  | none => simp
  | next digit _ ih =>
    rw [List.forall_mem_cons]
    exact ⟨.inl (isDecimal_of_value digit), ih⟩
  | joined digit _ _ ih =>
    rw [List.forall_mem_cons, List.forall_mem_cons]
    exact ⟨.inl (isDecimal_of_value digit), .inr rfl, ih⟩

theorem Digits.values_ne_nil {text : List Char} {values : List Nat} (digits : Digits text values) :
    values ≠ [] ↔ text ≠ [] := by
  cases digits <;> simp

theorem Digits.startsDecimal {text : List Char} {values : List Nat} (digits : Digits text values)
    (filled : text ≠ []) (rest : List Char) : startsDecimal (text ++ rest) = true := by
  obtain ⟨c, more, rfl⟩ := List.exists_cons_of_ne_nil filled
  exact digits.head rfl

theorem takeDigits_next {c : Char} {value : Nat} {text : List Char}
    (digit : decimalValue? c = some value)
    (apart : ∀ rest, text = '_' :: rest → startsDecimal rest = false) :
    takeDigits (c :: text) = (value :: (takeDigits text).1, (takeDigits text).2) := by
  cases text with
  | nil => simp [takeDigits, digit]
  | cons next rest =>
    have separate : (next == '_' && startsDecimal rest) = false := by
      by_cases bar : next = '_'
      · rw [apart rest (by rw [bar]), Bool.and_false]
      · rw [beq_false_of_ne bar, Bool.false_and]
    simp [takeDigits, digit, separate]

theorem takeDigits_joined {c : Char} {value : Nat} {text : List Char}
    (digit : decimalValue? c = some value) (more : startsDecimal text = true) :
    takeDigits (c :: '_' :: text) = (value :: (takeDigits text).1, (takeDigits text).2) := by
  simp [takeDigits, digit, more]

theorem takeDigits_stop {rest : List Char} (stops : Stops rest) : takeDigits rest = ([], rest) := by
  cases rest with
  | nil => rfl
  | cons c more =>
    have none := (stops c rfl).1
    cases more <;> simp [takeDigits, none]

/-- A run of digits is taken whole, up to where it stops. -/
theorem takeDigits_run {text rest : List Char} {values : List Nat} (digits : Digits text values)
    (stops : Stops rest) : takeDigits (text ++ rest) = (values, rest) := by
  induction digits with
  | none => exact takeDigits_stop stops
  | @next c value text values digit later ih =>
    have apart : ∀ others, text ++ rest = '_' :: others → startsDecimal others = false := by
      intro others bar
      cases text with
      | nil => exact absurd rfl (stops '_' (congrArg List.head? bar)).2
      | cons d more =>
        cases bar
        exact absurd rfl (decimal_bare (later.head rfl)).2.1
    rw [List.cons_append, takeDigits_next digit apart, ih]
  | joined digit later filled ih =>
    rw [List.cons_append, List.cons_append,
      takeDigits_joined digit (later.startsDecimal filled rest), ih]

theorem takeDigits_filled {text : List Char} (starts : startsDecimal text = true) :
    (takeDigits text).1 ≠ [] := by
  cases text with
  | nil => cases starts
  | cons c rest =>
    obtain ⟨value, digit⟩ := Option.isSome_iff_exists.mp starts
    cases rest <;> simp [takeDigits, digit]

/-- What is taken is a run of digits. -/
theorem digits_taken (text : List Char) :
    ∃ body, Digits body (takeDigits text).1 ∧ text = body ++ (takeDigits text).2 := by
  induction text using takeDigits.induct with
  | case1 => exact ⟨[], .none, rfl⟩
  | case2 c value digit =>
    rw [takeDigits_next digit (by simp)]
    exact ⟨[c], .next digit .none, rfl⟩
  | case3 c none =>
    simp only [takeDigits, none]
    exact ⟨[], .none, rfl⟩
  | case4 c next rest none =>
    simp only [takeDigits, none]
    exact ⟨[], .none, rfl⟩
  | case5 c next rest value digit _ _ _ joined later =>
    by_cases bridge : next = '_' ∧ startsDecimal rest = true
    · obtain ⟨rfl, more⟩ := bridge
      obtain ⟨body, digits, split⟩ := joined
      have filled := digits.values_ne_nil.mp (takeDigits_filled more)
      rw [takeDigits_joined digit more]
      refine ⟨c :: '_' :: body, .joined digit digits filled, ?_⟩
      rw [List.cons_append, List.cons_append, ← split]
    · obtain ⟨body, digits, split⟩ := later
      have apart : ∀ others, next :: rest = '_' :: others → startsDecimal others = false := by
        rintro others ⟨rfl, rfl⟩
        simpa using bridge
      rw [takeDigits_next digit apart]
      refine ⟨c :: body, .next digit digits, ?_⟩
      rw [List.cons_append, ← split]

theorem takeSign_signed {body text : List Char} {negative : Bool}
    (signed : Signed body negative text)
    (plain : ∀ c, body.head? = some c → c ≠ '+' ∧ c ≠ '-') : takeSign text = (negative, body) := by
  cases signed with
  | bare =>
    cases body with
    | nil => rfl
    | cons c rest =>
      rw [takeSign.eq_def]
      split
      next same => cases same; exact absurd rfl (plain '-' rfl).2
      next same => cases same; exact absurd rfl (plain '+' rfl).1
      next => rfl
  | plus => rfl
  | minus => rfl

theorem signed_taken (text : List Char) : Signed (takeSign text).2 (takeSign text).1 text := by
  rw [takeSign.eq_def]
  split
  · exact .minus
  · exact .plus
  · exact .bare

theorem Whole.taken {text : List Char} {negative : Bool} {digits : List Nat}
    (whole : Whole text negative digits) :
    takeSign text = (negative, (takeSign text).2) ∧ takeDigits (takeSign text).2 = (digits, []) ∧
      digits ≠ [] := by
  obtain ⟨body, signed, run, filled⟩ := whole
  have plain : ∀ c, body.head? = some c → c ≠ '+' ∧ c ≠ '-' := by
    intro c first
    obtain ⟨_, _, plus, minus, _⟩ := decimal_bare (run.head first)
    exact ⟨plus, minus⟩
  have taken : takeDigits (body ++ []) = (digits, []) := takeDigits_run run (by simp [Stops])
  rw [List.append_nil] at taken
  rw [takeSign_signed signed plain]
  exact ⟨rfl, taken, run.values_ne_nil.mpr filled⟩

theorem whole_of_taken {text : List Char} (filled : (takeDigits (takeSign text).2).1 ≠ [])
    (done : (takeDigits (takeSign text).2).2 = []) :
    Whole text (takeSign text).1 (takeDigits (takeSign text).2).1 := by
  obtain ⟨body, digits, split⟩ := digits_taken (takeSign text).2
  rw [done, List.append_nil] at split
  subst split
  exact ⟨_, signed_taken text, digits, digits.values_ne_nil.mp filled⟩

theorem letters_of_lower {text name : List Char} (lower : text.map Char.toLower = name)
    (letters : name.all isIdentifierStart = true) : ∀ c ∈ text, isIdentifierStart c = true := by
  intro c member
  have start : isIdentifierStart c.toLower = true := by
    apply List.all_eq_true.mp letters
    rw [← lower]
    exact List.mem_map_of_mem member
  by_cases upper : c.isUpper = true
  · have alpha : c.isAlpha = true := Bool.or_eq_true_iff.mpr (.inl upper)
    rw [isIdentifierStart, alpha, Bool.true_or]
  · have small : c.toLower = c := dif_neg fun range => upper (decide_eq_true range)
    rwa [small] at start

theorem Digits.plain {text : List Char} {values : List Nat} (digits : Digits text values) :
    ∀ c ∈ text, Plain c := by
  intro c member
  rcases digits.chars c member with decimal | rfl
  · exact (decimal_bare decimal).1
  · exact by decide

theorem Signed.plain {body text : List Char} {negative : Bool} (signed : Signed body negative text)
    (plain : ∀ c ∈ body, Plain c) : ∀ c ∈ text, Plain c := by
  cases signed with
  | bare => exact plain
  | plus => exact List.forall_mem_cons.mpr ⟨by decide, plain⟩
  | minus => exact List.forall_mem_cons.mpr ⟨by decide, plain⟩

theorem Whole.plain {text : List Char} {negative : Bool} {digits : List Nat}
    (whole : Whole text negative digits) : ∀ c ∈ text, Plain c := by
  obtain ⟨body, signed, run, _⟩ := whole
  exact signed.plain run.plain

theorem strip_solid {text : List Char} (plain : ∀ c ∈ text, isBlank c = false) :
    (strip (String.ofList text)).toList = text := by
  have whole : strip (String.ofList text) = String.ofList text := by
    apply strip_of_ends <;> rw [String.toList_ofList] <;> intro c found
    · exact plain c (List.mem_of_head? found)
    · exact plain c (List.mem_of_getLast? found)
  rw [whole, String.toList_ofList]

/-- A whole number is read as its value, unless it has too many digits. -/
theorem readInteger_whole {text : List Char} {negative : Bool} {digits : List Nat}
    (whole : Whole text negative digits) :
    readInteger (String.ofList text) =
      if digits.length > maxDigits then .error (.tooLong digits.length)
      else .ok (signedValue negative digits) := by
  obtain ⟨sign, taken, filled⟩ := whole.taken
  have some : digits.isEmpty = false := List.isEmpty_eq_false_iff.mpr filled
  rw [readInteger, strip_solid fun c member => (whole.plain c member).1, sign]
  simp only [taken, some, List.isEmpty_nil, Bool.not_true, Bool.or_self, Bool.false_eq_true,
    if_false]
  rfl

theorem readInteger_ok {text : List Char} {value : Int} (solid : ∀ c ∈ text, isBlank c = false)
    (read : readInteger (String.ofList text) = .ok value) :
    ∃ negative digits, Whole text negative digits ∧ digits.length ≤ maxDigits ∧
      value = signedValue negative digits := by
  rw [readInteger, strip_solid solid] at read
  simp only at read
  split at read
  next => cases read
  next short =>
    split at read
    next => cases read
    next good =>
      simp only [Bool.or_eq_true, not_or, List.isEmpty_iff, Bool.not_eq_true',
        Bool.not_eq_false] at good
      cases read
      exact ⟨_, _, whole_of_taken good.1 good.2, Nat.not_lt.mp short, rfl⟩

theorem Exponent.head {text : List Char} {power : Int} (exponent : Exponent text power) {c : Char}
    (first : text.head? = some c) : c = 'e' ∨ c = 'E' := by
  cases exponent with
  | none => cases first
  | marked mark _ =>
    cases first
    exact mark

theorem Exponent.stops {text : List Char} {power : Int} (exponent : Exponent text power) :
    Stops text := by
  intro c first
  rcases exponent.head first with rfl | rfl
  · exact ⟨by decide +kernel, by decide⟩
  · exact ⟨by decide +kernel, by decide⟩

theorem readExponent?_iff {text : List Char} {power : Int} :
    readExponent? text = some power ↔ Exponent text power := by
  constructor
  · intro read
    cases text with
    | nil =>
      cases read
      exact .none
    | cons c rest =>
      rw [readExponent?] at read
      split at read
      next mark =>
        simp only [Bool.or_eq_true, beq_iff_eq] at mark
        simp only at read
        split at read
        next => cases read
        next good =>
          simp only [Bool.or_eq_true, not_or, List.isEmpty_iff, Bool.not_eq_true',
            Bool.not_eq_false] at good
          cases read
          exact .marked mark (whole_of_taken good.1 good.2)
      next => cases read
  · intro exponent
    cases exponent with
    | none => rfl
    | marked mark whole =>
      obtain ⟨sign, taken, filled⟩ := whole.taken
      have some := List.isEmpty_eq_false_iff.mpr filled
      rw [readExponent?, if_pos (by simpa using mark), sign]
      simp only [taken, some, List.isEmpty_nil, Bool.not_true, Bool.or_self, Bool.false_eq_true,
        if_false]
      rfl

def takeFraction : List Char → List Nat × List Char
  | '.' :: after => takeDigits after
  | rest => ([], rest)

theorem readDecimal?_eq (negative : Bool) (text : List Char) :
    readDecimal? negative text =
      let whole := takeDigits text
      let fraction := takeFraction whole.2
      if whole.1.isEmpty && fraction.1.isEmpty then none
      else (readExponent? fraction.2).map fun exponent =>
        decimalFloat negative (whole.1 ++ fraction.1) (exponent - Int.ofNat fraction.1.length) := by
  rw [readDecimal?]
  simp only
  split
  next after point => rw [point, takeFraction]
  next none =>
    rw [takeFraction]
    exact none

theorem Fraction.taken {point last : List Char} {places : List Nat} {power : Int}
    (fraction : Fraction point places) (exponent : Exponent last power) :
    takeFraction (point ++ last) = (places, last) := by
  cases fraction with
  | none =>
    rw [List.nil_append, takeFraction.eq_def]
    split
    next =>
      rcases exponent.head rfl with same | same
      · exact absurd same (by decide)
      · exact absurd same (by decide)
    next => rfl
  | point digits => exact takeDigits_run digits exponent.stops

theorem fraction_taken (text : List Char) :
    ∃ point, Fraction point (takeFraction text).1 ∧ text = point ++ (takeFraction text).2 := by
  rw [takeFraction.eq_def]
  split
  next after =>
    obtain ⟨body, digits, split⟩ := digits_taken after
    refine ⟨'.' :: body, .point digits, ?_⟩
    rw [List.cons_append, ← split]
  next => exact ⟨[], .none, rfl⟩

theorem Fraction.stops {point last : List Char} {places : List Nat} {power : Int}
    (fraction : Fraction point places) (exponent : Exponent last power) :
    Stops (point ++ last) := by
  cases fraction with
  | none => exact exponent.stops
  | point =>
    intro c first
    cases first
    exact ⟨by decide +kernel, by decide⟩

theorem readDecimal?_iff {negative : Bool} {text : List Char} {value : Float} :
    readDecimal? negative text = some value ↔ Decimal negative text value := by
  rw [readDecimal?_eq]
  constructor
  · intro read
    obtain ⟨first, digits, split⟩ := digits_taken text
    obtain ⟨point, fraction, rest⟩ := fraction_taken (takeDigits text).2
    simp only at read
    split at read
    next => cases read
    next filled =>
      obtain ⟨power, exponent, rfl⟩ := Option.map_eq_some_iff.mp read
      rw [Bool.and_eq_true, List.isEmpty_iff, List.isEmpty_iff, not_and_or] at filled
      have decimal : Decimal negative _ _ :=
        .mk digits fraction (readExponent?_iff.mp exponent) filled
      rwa [← rest, ← split] at decimal
  · rintro ⟨digits, fraction, exponent, filled⟩
    simp only [takeDigits_run digits (fraction.stops exponent), fraction.taken exponent]
    rw [if_neg, readExponent?_iff.mpr exponent, Option.map_some]
    rw [Bool.and_eq_true, List.isEmpty_iff, List.isEmpty_iff, not_and_or]
    exact filled

theorem Exponent.plain {text : List Char} {power : Int} (exponent : Exponent text power) :
    ∀ c ∈ text, Plain c := by
  cases exponent with
  | none => simp
  | marked mark whole =>
    refine List.forall_mem_cons.mpr ⟨?_, whole.plain⟩
    rcases mark with rfl | rfl <;> decide

theorem Decimal.plain {negative : Bool} {text : List Char} {value : Float}
    (decimal : Decimal negative text value) : ∀ c ∈ text, Plain c := by
  obtain ⟨digits, fraction, exponent, _⟩ := decimal
  rw [List.forall_mem_append, List.forall_mem_append]
  refine ⟨digits.plain, ?_, exponent.plain⟩
  cases fraction with
  | none => simp
  | point places => exact List.forall_mem_cons.mpr ⟨by decide, places.plain⟩

theorem Decimal.head {negative : Bool} {text : List Char} {value : Float}
    (decimal : Decimal negative text value) :
    ∃ c, text.head? = some c ∧ (isDecimal c = true ∨ c = '.') := by
  obtain ⟨digits, fraction, exponent, filled⟩ := decimal
  cases digits with
  | none =>
    cases fraction with
    | none => simp at filled
    | point => exact ⟨'.', rfl, .inr rfl⟩
  | next digit _ => exact ⟨_, rfl, .inl (isDecimal_of_value digit)⟩
  | joined digit _ _ => exact ⟨_, rfl, .inl (isDecimal_of_value digit)⟩

/-- A number in digits is no name: it begins with a digit or a point. -/
theorem Decimal.not_name {negative : Bool} {text name : List Char} {value : Float}
    (decimal : Decimal negative text value) (letters : name.all isIdentifierStart = true) :
    text.map Char.toLower ≠ name := by
  intro same
  obtain ⟨c, first, digit | rfl⟩ := decimal.head
  · have letter := letters_of_lower same letters c (List.mem_of_head? first)
    have other := isDigit_of_start letter
    rw [Text.isDigit, digit] at other
    cases other
  · exact absurd (letters_of_lower same letters '.' (List.mem_of_head? first)) (by decide)

theorem letters_chars {text : List Char} (filled : text ≠ [])
    (letters : ∀ c ∈ text, isIdentifierStart c = true) :
    (∃ c, text.head? = some c ∧ c ≠ '+' ∧ c ≠ '-') ∧ ∀ c ∈ text, Plain c := by
  constructor
  · obtain ⟨c, rest, rfl⟩ := List.exists_cons_of_ne_nil filled
    have start := letters c List.mem_cons_self
    refine ⟨c, rfl, ?_, ?_⟩ <;> rintro rfl <;> exact absurd start (by decide)
  · intro c member
    exact identifierChar_bare (identifierChar_iff.mpr (.inl (letters c member)))

theorem Unsigned.chars {negative : Bool} {text : List Char} {value : Float}
    (number : Unsigned negative text value) :
    (∃ c, text.head? = some c ∧ c ≠ '+' ∧ c ≠ '-') ∧ ∀ c ∈ text, Plain c := by
  have named {name : String} (same : text.map Char.toLower = name.toList) (filled : name ≠ "")
      (letters : name.toList.all isIdentifierStart = true) := by
    refine letters_chars ?_ (letters_of_lower same letters)
    rintro rfl
    exact filled (String.toList_eq_nil_iff.mp same.symm)
  cases number with
  | infinite name =>
    rcases name with short | long
    · exact named short (by decide) (by decide +kernel)
    · exact named long (by decide) (by decide +kernel)
  | notANumber name => exact named name (by decide) (by decide +kernel)
  | decimal decimal =>
    refine ⟨?_, decimal.plain⟩
    obtain ⟨c, first, digit | rfl⟩ := decimal.head
    · obtain ⟨_, _, plus, minus, _⟩ := decimal_bare digit
      exact ⟨c, first, plus, minus⟩
    · exact ⟨'.', first, by decide, by decide⟩

theorem Floating.bare {text : List Char} {value : Float} (number : Floating text value) :
    Bare text := by
  obtain ⟨negative, body, signed, unsigned⟩ := number
  obtain ⟨⟨c, first, _⟩, plain⟩ := unsigned.chars
  refine ⟨?_, signed.plain plain⟩
  rintro rfl
  cases signed
  cases first

theorem whole_floating {text : List Char} {negative : Bool} {digits : List Nat}
    (whole : Whole text negative digits) : ∃ value, Floating text value := by
  obtain ⟨body, signed, run, filled⟩ := whole
  have decimal : Decimal negative (body ++ ([] ++ [])) _ :=
    .mk run .none .none (.inl (run.values_ne_nil.mpr filled))
  rw [List.append_nil, List.append_nil] at decimal
  exact ⟨_, negative, body, signed, .decimal decimal⟩

theorem ofList_beq {text : List Char} {word : String} :
    (String.ofList text == word) = true ↔ text = word.toList := by
  rw [beq_iff_eq]
  constructor
  · rintro rfl
    exact String.toList_ofList.symm
  · rintro rfl
    exact String.ofList_toList

theorem readFloat?_iff {text : List Char} {value : Float}
    (solid : ∀ c ∈ text, isBlank c = false) :
    readFloat? (String.ofList text) = some value ↔ Floating text value := by
  constructor
  · intro read
    rw [readFloat?, strip_solid solid] at read
    refine ⟨(takeSign text).1, (takeSign text).2, signed_taken text, ?_⟩
    simp only at read
    split at read
    next name =>
      rw [Bool.or_eq_true, ofList_beq, ofList_beq] at name
      cases read
      exact .infinite name
    next =>
      split at read
      next name =>
        cases read
        exact .notANumber (ofList_beq.mp name)
      next => exact .decimal (readDecimal?_iff.mp read)
  · rintro ⟨negative, body, signed, number⟩
    have sign : takeSign text = (negative, body) := by
      obtain ⟨⟨c, first, plus, minus⟩, _⟩ := number.chars
      apply takeSign_signed signed
      intro other here
      cases first.symm.trans here
      exact ⟨plus, minus⟩
    rw [readFloat?, strip_solid solid, sign]
    simp only [Bool.or_eq_true, ofList_beq]
    cases number with
    | infinite name => rw [if_pos name]
    | notANumber name => rw [if_neg (by simp [name]), if_pos name]
    | decimal decimal =>
      have unnamed (name : String) (letters : name.toList.all isIdentifierStart = true) :
          body.map Char.toLower ≠ name.toList := decimal.not_name letters
      rw [if_neg (not_or.mpr ⟨unnamed "inf" (by decide +kernel),
        unnamed "infinity" (by decide +kernel)⟩), if_neg (unnamed "nan" (by decide +kernel)),
        readDecimal?_iff.mpr decimal]

end AngularLint.Proofs.NumeralGrammar
