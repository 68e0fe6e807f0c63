import AngularLint.Proofs.NumeralGrammar

/-! The literals of a selector. Behind an equals sign the reader takes what the grammar of literals
spells, and two kinds of texts besides: those that begin with a quote but are no complete text in
quotes, and whole numbers with too many digits. -/

namespace AngularLint.Proofs.LiteralGrammar
open AngularLint.Text AngularLint.Number Numerals LiteralText NumeralGrammar

def Blanks (text : List Char) : Prop :=
  ∀ c ∈ text, isBlank c = true

/-- The inside of a text in quotes, and the text it stands for. A backslash takes the character
behind it as it is, but cannot stand before a line feed. -/
inductive Enclosed (quote : Char) : List Char → List Char → Prop where
  | nil : Enclosed quote [] []
  | plain {c : Char} {text value : List Char} (inside : c ≠ quote) (unescaped : c ≠ '\\')
      (later : Enclosed quote text value) : Enclosed quote (c :: text) (c :: value)
  | escaped {c : Char} {text value : List Char} (inline : c ≠ '\n')
      (later : Enclosed quote text value) : Enclosed quote ('\\' :: c :: text) (c :: value)

inductive Quoted : List Char → List Char → Prop where
  | mk {quote : Char} {text value : List Char} (mark : quote = '"' ∨ quote = '\'')
      (body : Enclosed quote text value) : Quoted (quote :: (text ++ [quote])) value

inductive Denotes : List Char → Literal → Prop where
  | text {raw value : List Char} (quoted : Quoted raw value) :
      Denotes raw (.text (String.ofList value))
  | true : Denotes "true".toList (.flag true)
  | false : Denotes "false".toList (.flag false)
  | null : Denotes "null".toList .null
  | int {raw : List Char} {negative : Bool} {digits : List Nat} (whole : Whole raw negative digits)
      (short : digits.length ≤ maxDigits) : Denotes raw (.int (signedValue negative digits))
  | float {raw : List Char} {value : Float} (number : Floating raw value)
      (broken : ∀ negative digits, ¬ Whole raw negative digits) : Denotes raw (.float value)

/-- What is read in front of `behind` although it is no literal of the grammar. What begins with a
quote loses its last character as if that were the closing quote; a whole number with too many
digits becomes a double. -/
inductive Strays (raw behind : List Char) : Literal → Prop where
  | unquoted (opened : raw.head? = some '"' ∨ raw.head? = some '\'')
      (unbroken : ∀ c ∈ raw, isBlank c = false ∧ c ≠ ']')
      (incomplete : ∀ written value gap after, Quoted written value → Blanks gap →
        raw ++ behind ≠ written ++ (gap ++ ']' :: after)) :
      Strays raw behind (.text (String.ofList (unescape (raw.drop 1).dropLast)))
  | overlong {negative : Bool} {digits : List Nat} {value : Float}
      (whole : Whole raw negative digits) (long : maxDigits < digits.length)
      (number : Floating raw value) : Strays raw behind (.float value)

/-- How a value is read in front of `behind`, and whether it strays: none or one. -/
inductive Reads (raw behind : List Char) : Nat → Literal → Prop where
  | denotes {literal : Literal} (denotes : Denotes raw literal) : Reads raw behind 0 literal
  | strays {literal : Literal} (strays : Strays raw behind literal) : Reads raw behind 1 literal

theorem takeQuoted?_body {quote : Char} {body value : List Char} (mark : quote ≠ '\\')
    (inside : Enclosed quote body value) (rest : List Char) :
    takeQuoted? quote (body ++ quote :: rest) = some (body ++ [quote], rest) := by
  induction inside with
  | nil => cases rest <;> simp [takeQuoted?]
  | @plain c text value inside unescaped later ih =>
    -- The reader looks one character ahead; the closing quote is there at the latest.
    obtain ⟨next, more, split⟩ : ∃ next more, text ++ quote :: rest = next :: more :=
      List.exists_cons_of_ne_nil (by simp)
    rw [List.cons_append, split, takeQuoted?, ← split, ih]
    simp [inside, unescaped]
  | escaped inline later ih => simp [takeQuoted?, inline, ih, mark.symm]

theorem body_taken {quote : Char} {text taken left : List Char}
    (found : takeQuoted? quote text = some (taken, left)) :
    ∃ body value, Enclosed quote body value ∧ taken = body ++ [quote] ∧
      text = body ++ quote :: left := by
  fun_induction takeQuoted? quote text generalizing taken left with
  | case1 => cases found
  | case2 c same =>
    cases found
    rw [beq_iff_eq] at same
    subst same
    exact ⟨[], [], .nil, rfl, rfl⟩
  | case3 => cases found
  | case4 c next rest same =>
    cases found
    rw [beq_iff_eq] at same
    subst same
    exact ⟨[], [], .nil, rfl, rfl⟩
  | case5 => cases found
  | case6 c next rest _ backslash inline ih =>
    obtain ⟨⟨first, second⟩, later, same⟩ := Option.map_eq_some_iff.mp found
    obtain ⟨body, value, inside, rfl, rfl⟩ := ih later
    cases same
    rw [beq_iff_eq] at backslash inline
    subst backslash
    exact ⟨'\\' :: next :: body, next :: value, .escaped inline inside, rfl, rfl⟩
  | case7 c next rest other plain ih =>
    obtain ⟨⟨first, second⟩, later, same⟩ := Option.map_eq_some_iff.mp found
    obtain ⟨body, value, inside, rfl, split⟩ := ih later
    cases same
    rw [beq_iff_eq] at other plain
    refine ⟨c :: body, c :: value, .plain other plain inside, rfl, ?_⟩
    rw [split, List.cons_append]

theorem unescape_body {quote : Char} {body value : List Char} (inside : Enclosed quote body value) :
    unescape body = value := by
  induction inside with
  | nil => rfl
  | plain _ unescaped _ ih =>
    rw [unescape, ih]
    intro _ _ backslash
    exact absurd backslash unescaped
  | escaped inline _ ih => simp [unescape, inline, ih]

theorem blanks_taken (text : List Char) : Blanks (text.takeWhile isBlank) :=
  fun _ member => List.mem_takeWhile_imp member

theorem dropWhile_blanks {gap rest : List Char} (blanks : Blanks gap)
    (solid : ∀ c, rest.head? = some c → isBlank c = false) :
    (gap ++ rest).dropWhile isBlank = rest :=
  (run_ends rest blanks solid).2

theorem afterBracket?_blanks {gap : List Char} (blanks : Blanks gap) (after : List Char) :
    afterBracket? (gap ++ ']' :: after) = some after := by
  have solid : ∀ c, (']' :: after).head? = some c → isBlank c = false := by
    intro c first
    cases first
    decide
  rw [afterBracket?, dropWhile_blanks blanks solid]
  rfl

theorem afterBracket?_iff {text after : List Char} :
    afterBracket? text = some after ↔ ∃ gap, Blanks gap ∧ text = gap ++ ']' :: after := by
  constructor
  · intro found
    rw [afterBracket?] at found
    split at found
    next rest bracket =>
      cases found
      refine ⟨text.takeWhile isBlank, blanks_taken text, ?_⟩
      rw [← bracket, List.takeWhile_append_dropWhile]
    next => cases found
  · rintro ⟨gap, blanks, rfl⟩
    exact afterBracket?_blanks blanks after

theorem quotedValue?_iff {text raw after : List Char} :
    quotedValue? text = some (raw, after) ↔
      ∃ value gap, Quoted raw value ∧ Blanks gap ∧ text = raw ++ (gap ++ ']' :: after) := by
  constructor
  · intro found
    rw [quotedValue?.eq_def] at found
    split at found
    next quote rest =>
      split at found
      next mark =>
        obtain ⟨⟨taken, left⟩, first, bound⟩ := Option.bind_eq_some_iff.mp found
        obtain ⟨closed, second, same⟩ := Option.map_eq_some_iff.mp bound
        obtain ⟨body, value, inside, rfl, rfl⟩ := body_taken first
        obtain ⟨gap, blanks, rfl⟩ := afterBracket?_iff.mp second
        cases same
        rw [Bool.or_eq_true, beq_iff_eq, beq_iff_eq] at mark
        refine ⟨value, gap, .mk mark inside, blanks, ?_⟩
        rw [List.cons_append, List.append_assoc, List.singleton_append]
      next => cases found
    next => cases found
  · rintro ⟨value, gap, @⟨quote, _, _, mark, inside⟩, blanks, rfl⟩
    have straight : quote ≠ '\\' := by
      rcases mark with rfl | rfl
      · decide
      · decide
    rw [List.cons_append, List.append_assoc, List.singleton_append, quotedValue?,
      if_pos (by simpa using mark), takeQuoted?_body straight inside]
    simp [afterBracket?_blanks blanks]

theorem bareValue?_iff {text raw after : List Char} :
    bareValue? text = some (raw, after) ↔
      raw ≠ [] ∧ (∀ c ∈ raw, isBlank c = false ∧ c ≠ ']') ∧
        ∃ gap, Blanks gap ∧ text = raw ++ (gap ++ ']' :: after) := by
  constructor
  · intro found
    rw [bareValue?] at found
    split at found
    next => cases found
    next filled =>
      obtain ⟨closed, bracket, same⟩ := Option.map_eq_some_iff.mp found
      obtain ⟨gap, blanks, split⟩ := afterBracket?_iff.mp bracket
      cases same
      refine ⟨by simpa using filled, ?_, gap, blanks, ?_⟩
      · intro c member
        have inside := List.mem_takeWhile_imp member
        simp only [Bool.and_eq_true, bne_iff_ne, Bool.not_eq_true'] at inside
        exact ⟨inside.2, inside.1⟩
      · rw [← split, List.takeWhile_append_dropWhile]
  · rintro ⟨filled, unbroken, gap, blanks, rfl⟩
    have inside : ∀ c ∈ raw, (c != ']' && !isBlank c) = true := by
      intro c member
      obtain ⟨solid, unclosed⟩ := unbroken c member
      simp [solid, unclosed]
    have stops : ∀ c, (gap ++ ']' :: after).head? = some c → (c != ']' && !isBlank c) = false := by
      intro c first
      cases gap with
      | nil =>
        cases first
        decide
      | cons blank more =>
        cases first
        rw [blanks c List.mem_cons_self, Bool.not_true, Bool.and_false]
    obtain ⟨taken, left⟩ := run_ends _ inside stops
    simp [bareValue?, taken, left, filled, afterBracket?_blanks blanks]

theorem quoted_read {raw value : List Char} (quoted : Quoted raw value) (text : String) :
    readLiteral raw text = .ok (.text (String.ofList value)) := by
  obtain ⟨mark, inside⟩ := quoted
  rw [readLiteral, if_pos (by simpa using mark), List.drop_one, List.tail_cons,
    List.dropLast_concat, unescape_body inside]

theorem opened_read {raw : List Char} (opened : raw.head? = some '"' ∨ raw.head? = some '\'')
    (text : String) :
    readLiteral raw text = .ok (.text (String.ofList (unescape (raw.drop 1).dropLast))) := by
  rw [readLiteral, if_pos (by simpa using opened)]

/-- The words among the literals are no numbers. -/
theorem floating_not_word {raw : List Char} {value : Float} (number : Floating raw value)
    {word : String} (other : (readFloat? word).isNone = true) : raw ≠ word.toList := by
  rintro rfl
  have read := (readFloat?_iff fun c member => (number.bare.chars c member).1).mpr number
  rw [String.ofList_toList] at read
  rw [read] at other
  cases other

theorem number_read {raw : List Char} {value : Float} (number : Floating raw value)
    (text : String) :
    (∀ whole, readInteger (String.ofList raw) = .ok whole →
        readLiteral raw text = .ok (.int whole)) ∧
      ∀ fault, readInteger (String.ofList raw) = .error fault →
        readLiteral raw text = .ok (.float value) := by
  have read := (readFloat?_iff fun c member => (number.bare.chars c member).1).mpr number
  have other (word : String) (none : (readFloat? word).isNone = true) :
      ¬ (String.ofList raw == word) = true :=
    fun same => floating_not_word number none (ofList_beq.mp same)
  rw [readLiteral, number.bare.unquoted]
  simp only [Bool.false_eq_true, if_false, read, if_neg (other "true" (by decide +kernel)),
    if_neg (other "false" (by decide +kernel)), if_neg (other "null" (by decide +kernel))]
  constructor
  · intro whole made
    rw [made]
  · intro fault failed
    rw [failed]

theorem bare_denoted {raw : List Char} {literal : Literal} (denotes : Denotes raw literal) :
    (∃ value, Quoted raw value) ∨ Bare raw := by
  cases denotes with
  | text quoted => exact .inl ⟨_, quoted⟩
  | true => exact .inr (word_bare (by decide +kernel))
  | false => exact .inr (word_bare (by decide +kernel))
  | null => exact .inr (word_bare (by decide +kernel))
  | int whole _ =>
    obtain ⟨value, number⟩ := whole_floating whole
    exact .inr number.bare
  | float number _ => exact .inr number.bare

theorem readInteger_long {raw : List Char} {negative : Bool} {digits : List Nat}
    (whole : Whole raw negative digits) (long : maxDigits < digits.length) :
    readInteger (String.ofList raw) = .error (.tooLong digits.length) := by
  rw [readInteger_whole whole, if_pos long]

theorem readInteger_short {raw : List Char} {negative : Bool} {digits : List Nat}
    (whole : Whole raw negative digits) (short : digits.length ≤ maxDigits) :
    readInteger (String.ofList raw) = .ok (signedValue negative digits) := by
  rw [readInteger_whole whole, if_neg (Nat.not_lt.mpr short)]

theorem denotes_read {raw : List Char} {literal : Literal} (denotes : Denotes raw literal)
    (text : String) : readLiteral raw text = .ok literal := by
  cases denotes with
  | text quoted => exact quoted_read quoted text
  | true => rfl
  | false => rfl
  | null => rfl
  | int whole short =>
    obtain ⟨value, number⟩ := whole_floating whole
    exact (number_read number text).1 _ (readInteger_short whole short)
  | float number broken =>
    cases read : readInteger (String.ofList raw) with
    | ok =>
      obtain ⟨negative, digits, whole, _⟩ :=
        readInteger_ok (fun c member => (number.bare.chars c member).1) read
      exact absurd whole (broken negative digits)
    | error fault => exact (number_read number text).2 fault read

theorem strays_read {raw behind : List Char} {literal : Literal}
    (strays : Strays raw behind literal) (text : String) : readLiteral raw text = .ok literal := by
  cases strays with
  | unquoted opened => exact opened_read opened text
  | overlong whole long number =>
    exact (number_read number text).2 _ (readInteger_long whole long)

/-- What was read without a quote in front is a literal of the grammar, or a number too long. -/
theorem bare_read {raw : List Char} {literal : Literal} {text : String} (behind : List Char)
    (solid : ∀ c ∈ raw, isBlank c = false)
    (unopened : (raw.head? == some '"' || raw.head? == some '\'') = false)
    (read : readLiteral raw text = .ok literal) : ∃ strays, Reads raw behind strays literal := by
  rw [readLiteral, unopened] at read
  simp only [Bool.false_eq_true, if_false, ofList_beq] at read
  split at read
  next word =>
    cases read
    subst word
    exact ⟨0, .denotes .true⟩
  split at read
  next word =>
    cases read
    subst word
    exact ⟨0, .denotes .false⟩
  split at read
  next word =>
    cases read
    subst word
    exact ⟨0, .denotes .null⟩
  cases made : readInteger (String.ofList raw) with
  | ok whole =>
    rw [made] at read
    cases read
    obtain ⟨negative, digits, whole, short, rfl⟩ := readInteger_ok solid made
    exact ⟨0, .denotes (.int whole short)⟩
  | error fault =>
    rw [made] at read
    simp only at read
    split at read
    next value found =>
      cases read
      have number := (readFloat?_iff solid).mp found
      by_cases integral : ∃ negative digits, Whole raw negative digits
      · obtain ⟨negative, digits, whole⟩ := integral
        refine ⟨1, .strays (.overlong whole ?_ number)⟩
        by_contra short
        rw [readInteger_short whole (Nat.not_lt.mp short)] at made
        cases made
      · refine ⟨0, .denotes (.float number ?_)⟩
        intro negative digits whole
        exact integral ⟨negative, digits, whole⟩
    next => cases read

section
variable {raw gap after : List Char} {literal : Literal}

theorem unquoted_taken (bare : Bare raw) (blanks : Blanks gap) :
    (quotedValue? (raw ++ (gap ++ ']' :: after))).or (bareValue? (raw ++ (gap ++ ']' :: after))) =
      some (raw, after) := by
  have unquoted : quotedValue? (raw ++ (gap ++ ']' :: after)) = none := by
    obtain ⟨first, rest, rfl⟩ := List.exists_cons_of_ne_nil bare.nonempty
    obtain ⟨_, _, double, single⟩ := bare.chars first List.mem_cons_self
    simp [quotedValue?, double, single]
  rw [unquoted, Option.none_or]
  refine bareValue?_iff.mpr ⟨bare.nonempty, ?_, gap, blanks, rfl⟩
  intro c member
  obtain ⟨solid, unclosed, _⟩ := bare.chars c member
  exact ⟨solid, unclosed⟩

theorem denotes_taken (denotes : Denotes raw literal) (blanks : Blanks gap) :
    (quotedValue? (raw ++ (gap ++ ']' :: after))).or (bareValue? (raw ++ (gap ++ ']' :: after))) =
      some (raw, after) := by
  rcases bare_denoted denotes with ⟨value, quoted⟩ | bare
  · rw [quotedValue?_iff.mpr ⟨value, gap, quoted, blanks, rfl⟩, Option.some_or]
  · exact unquoted_taken bare blanks

theorem strays_taken (strays : Strays raw (gap ++ ']' :: after) literal) (blanks : Blanks gap) :
    (quotedValue? (raw ++ (gap ++ ']' :: after))).or (bareValue? (raw ++ (gap ++ ']' :: after))) =
      some (raw, after) := by
  cases strays with
  | unquoted opened unbroken incomplete =>
    have unquoted : quotedValue? (raw ++ (gap ++ ']' :: after)) = none := by
      rw [Option.eq_none_iff_forall_ne_some]
      rintro ⟨written, closed⟩ found
      obtain ⟨value, space, quoted, inside, split⟩ := quotedValue?_iff.mp found
      exact incomplete written value space closed quoted inside split
    have filled : raw ≠ [] := by
      rintro rfl
      simp at opened
    rw [unquoted, Option.none_or]
    exact bareValue?_iff.mpr ⟨filled, unbroken, gap, blanks, rfl⟩
  | overlong _ _ number => exact unquoted_taken number.bare blanks

/-- No text is read as a literal of the grammar at a place where it strays. -/
theorem denotes_not_stray {other : Literal} (denotes : Denotes raw literal) (blanks : Blanks gap) :
    ¬ Strays raw (gap ++ ']' :: after) other := by
  intro strays
  cases strays with
  | unquoted opened _ incomplete =>
    rcases bare_denoted denotes with ⟨value, quoted⟩ | bare
    · exact incomplete raw value gap after quoted blanks rfl
    · have unopened := bare.unquoted
      rcases opened with first | first <;> rw [first] at unopened <;> cases unopened
  | overlong whole long number =>
    have rounded := (number_read number "").2 _ (readInteger_long whole long)
    rw [denotes_read denotes] at rounded
    cases rounded with
    | refl =>
      cases denotes with
      | float _ broken => exact broken _ _ whole

theorem Reads.taken {strays : Nat} (reads : Reads raw (gap ++ ']' :: after) strays literal)
    (blanks : Blanks gap) :
    (quotedValue? (raw ++ (gap ++ ']' :: after))).or (bareValue? (raw ++ (gap ++ ']' :: after))) =
      some (raw, after) := by
  cases reads with
  | denotes denotes => exact denotes_taken denotes blanks
  | strays strays => exact strays_taken strays blanks

theorem Reads.read {behind : List Char} {strays : Nat} (reads : Reads raw behind strays literal)
    (text : String) : readLiteral raw text = .ok literal := by
  cases reads with
  | denotes denotes => exact denotes_read denotes text
  | strays strays => exact strays_read strays text

theorem Reads.unique {here there : Nat} {other : Literal} (blanks : Blanks gap)
    (one : Reads raw (gap ++ ']' :: after) here literal)
    (two : Reads raw (gap ++ ']' :: after) there other) : here = there := by
  cases one with
  | denotes denotes =>
    cases two with
    | denotes => rfl
    | strays strays => exact absurd strays (denotes_not_stray denotes blanks)
  | strays strays =>
    cases two with
    | denotes denotes => exact absurd strays (denotes_not_stray denotes blanks)
    | strays => rfl

theorem Reads.head {behind : List Char} {strays : Nat} (reads : Reads raw behind strays literal) :
    ∃ c rest, raw = c :: rest ∧ isBlank c = false := by
  have bare_head (bare : Bare raw) : ∃ c rest, raw = c :: rest ∧ isBlank c = false := by
    obtain ⟨c, rest, rfl⟩ := List.exists_cons_of_ne_nil bare.nonempty
    exact ⟨c, rest, rfl, (bare.chars c List.mem_cons_self).1⟩
  cases reads with
  | denotes denotes =>
    rcases bare_denoted denotes with ⟨value, mark, _⟩ | bare
    · rcases mark with rfl | rfl
      · exact ⟨_, _, rfl, by decide⟩
      · exact ⟨_, _, rfl, by decide⟩
    · exact bare_head bare
  | strays strays =>
    cases strays with
    | unquoted opened unbroken =>
      cases raw with
      | nil => simp at opened
      | cons c rest => exact ⟨c, rest, rfl, (unbroken c List.mem_cons_self).1⟩
    | overlong _ _ number => exact bare_head number.bare

/-- The reader takes a value for what the grammar spells, or strays. -/
theorem value_iff {rest : List Char} {text : String} :
    ((quotedValue? rest).or (bareValue? rest) = some (raw, after) ∧
        readLiteral raw text = .ok literal) ↔
      ∃ gap strays, Blanks gap ∧ rest = raw ++ (gap ++ ']' :: after) ∧
        Reads raw (gap ++ ']' :: after) strays literal := by
  constructor
  · rintro ⟨taken, read⟩
    rcases Option.or_eq_some_iff.mp taken with found | ⟨unquoted, found⟩
    · obtain ⟨value, gap, quoted, blanks, rfl⟩ := quotedValue?_iff.mp found
      rw [quoted_read quoted] at read
      cases read
      exact ⟨gap, 0, blanks, rfl, .denotes (.text quoted)⟩
    · obtain ⟨filled, unbroken, gap, blanks, rfl⟩ := bareValue?_iff.mp found
      by_cases opened : raw.head? = some '"' ∨ raw.head? = some '\''
      · rw [opened_read opened] at read
        cases read
        refine ⟨gap, 1, blanks, rfl, .strays (.unquoted opened unbroken ?_)⟩
        intro written value space closed quoted inside split
        rw [quotedValue?_iff.mpr ⟨value, space, quoted, inside, split⟩] at unquoted
        cases unquoted
      · have solid : ∀ c ∈ raw, isBlank c = false := fun c member => (unbroken c member).1
        obtain ⟨strays, reads⟩ :=
          bare_read (gap ++ ']' :: after) solid (by simpa using opened) read
        exact ⟨gap, strays, blanks, rfl, reads⟩
  · rintro ⟨gap, strays, blanks, rfl, reads⟩
    exact ⟨reads.taken blanks, reads.read text⟩

end

end AngularLint.Proofs.LiteralGrammar
