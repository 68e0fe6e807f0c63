import AngularLint.Fault
import AngularLint.Proofs.SelectorGrammar

/-! Why a text is refused as a selector. All faults say so but one: behind constraints that are read,
the first path with a position of too many digits fails as a number. A text without such long runs
of digits is a selector or is refused as one. -/

namespace AngularLint.Proofs.SelectorFaults
open AngularLint.Text AngularLint.Number Numerals Outcomes NumeralGrammar LiteralGrammar
open PathReading SelectorGrammar SelectorText

/-- A path of identifiers and positions, of which the first with too many digits has `count`. -/
inductive Overlong (written : List Char) (count : Nat) : Prop where
  | mk {before after : List (List Char)} {part : List Char}
      (split : written.splitOn '.' = before ++ part :: after)
      (proper : ∀ other ∈ written.splitOn '.', isPathPart (String.ofList other) = true)
      (earlier : ∀ other ∈ before, ∃ segment, SelectorGrammar.Step other segment)
      (decimals : ∀ c ∈ part, isDecimal c = true) (size : part.length = count)
      (long : maxDigits < count)

/-- What follows a path up to a bracket that closes the constraint. The value need not be a
literal. -/
inductive Ended : List Char → Prop where
  | absent {after : List Char} : Ended (']' :: after)
  | quoted {gap raw value close after : List Char} (space : Blanks gap) (quoted : Quoted raw value)
      (closing : Blanks close) : Ended ('=' :: (gap ++ (raw ++ (close ++ ']' :: after))))
  | bare {gap raw close after : List Char} (space : Blanks gap) (filled : raw ≠ [])
      (unbroken : ∀ c ∈ raw, isBlank c = false ∧ c ≠ ']') (closing : Blanks close) :
      Ended ('=' :: (gap ++ (raw ++ (close ++ ']' :: after))))

/-- Constraints are read from the text up to one with an overlong position. -/
inductive Overrun : List Char → Nat → Prop where
  | here {front written back rest : List Char} {count : Nat} (opening : Blanks front)
      (path : Overlong written count) (space : Blanks back) (ended : Ended rest) :
      Overrun ('[' :: (front ++ (written ++ (back ++ rest)))) count
  | past {strays count : Nat} {text after : List Char} {constraint : Constraint}
      (clause : Clause strays text constraint after) (later : Overrun after count) :
      Overrun text count

inductive Stumbles : List Char → Nat → Prop where
  | mk {kind text : List Char} {count : Nat} (identifier : isIdentifier kind = true)
      (overrun : Overrun text count) : Stumbles (kind ++ text) count

theorem ended_iff {rest : List Char} :
    (∃ value after, takeExpected? rest = some (value, after)) ↔ Ended rest := by
  constructor
  · rintro ⟨value, after, taken⟩
    rw [takeExpected?.eq_def] at taken
    split at taken
    next => exact .absent
    next text =>
      obtain ⟨⟨raw, closed⟩, found, _⟩ := Option.map_eq_some_iff.mp taken
      have whole := List.takeWhile_append_dropWhile (p := isBlank) (l := text)
      rcases Option.or_eq_some_iff.mp found with complete | ⟨_, plain⟩
      · obtain ⟨_, close, quoted, closing, split⟩ := quotedValue?_iff.mp complete
        rw [← whole, split]
        exact .quoted (blanks_taken text) quoted closing
      · obtain ⟨filled, unbroken, close, closing, split⟩ := bareValue?_iff.mp plain
        rw [← whole, split]
        exact .bare (blanks_taken text) filled unbroken closing
    next => cases taken
  · intro ended
    cases ended with
    | absent => exact ⟨none, _, rfl⟩
    | @quoted gap raw value close after space quoted closing =>
      have solid : ∀ c, (raw ++ (close ++ ']' :: after)).head? = some c → isBlank c = false := by
        intro c first
        obtain ⟨mark, _⟩ := quoted
        cases first
        rcases mark with rfl | rfl <;> decide
      rw [takeExpected?, dropWhile_blanks space solid,
        quotedValue?_iff.mpr ⟨value, close, quoted, closing, rfl⟩]
      exact ⟨_, _, rfl⟩
    | @bare gap raw close after space filled unbroken closing =>
      have solid : ∀ c, (raw ++ (close ++ ']' :: after)).head? = some c → isBlank c = false := by
        intro c first
        obtain ⟨start, more, rfl⟩ := List.exists_cons_of_ne_nil filled
        cases first
        exact (unbroken c List.mem_cons_self).1
      have plain : bareValue? (raw ++ (close ++ ']' :: after)) = some (raw, after) :=
        bareValue?_iff.mpr ⟨filled, unbroken, close, closing, rfl⟩
      rw [takeExpected?, dropWhile_blanks space solid, plain]
      cases quotedValue? (raw ++ (close ++ ']' :: after)) with
      | none => exact ⟨_, _, rfl⟩
      | some found => exact ⟨_, _, rfl⟩

theorem Overlong.chars {written : List Char} {count : Nat} (path : Overlong written count) :
    written ≠ [] ∧ ∀ c ∈ written, isPathChar c = true := by
  obtain ⟨_, proper, _⟩ := path
  constructor
  · rintro rfl
    exact (part_chars (proper [] (by simp))).1 rfl
  · intro c member
    have whole : ['.'].intercalate (written.splitOn '.') = written := List.intercalate_splitOn '.'
    rw [← whole] at member
    rcases mem_intercalate member with rfl | ⟨part, inside, there⟩
    · decide
    · exact ((part_chars (proper part inside)).2 c there).1

/-- A part that may stand in a path fails to be read only by its length. -/
theorem part_fails_iff {part : List Char} {fault : NumeralFault}
    (proper : isPathPart (String.ofList part) = true) :
    Segment.read (String.ofList part) = .error fault ↔
      (∀ c ∈ part, isDecimal c = true) ∧ fault = .tooLong part.length ∧
        maxDigits < part.length := by
  have filled := (part_chars proper).1
  rw [isPathPart, String.toList_ofList, Bool.or_eq_true, Bool.and_eq_true] at proper
  rcases proper with identifier | ⟨_, all⟩
  · rw [read_name identifier]
    refine iff_of_false (by simp) ?_
    rintro ⟨decimals, _⟩
    obtain ⟨first, rest, rfl, start, _⟩ := PathText.identifier_chars identifier
    have other := PathText.isDigit_of_start start
    rw [Text.isDigit, decimals first List.mem_cons_self] at other
    cases other
  · obtain ⟨digits, decimals⟩ := decimals_iff.mp all
    rw [read_position filled decimals, ← decimals.length_eq]
    split
    next long =>
      constructor
      · intro same
        cases same
        exact ⟨List.all_eq_true.mp all, rfl, long⟩
      · rintro ⟨_, rfl, _⟩
        rfl
    next short => exact iff_of_false (by simp) fun held => short held.2.2

/-- A path of identifiers and positions is refused as a number, and just if one is too long. -/
theorem readPath_position_iff {written : List Char} {fault : NumeralFault} (text : String) :
    readPath (String.ofList written) text = .error (.position fault) ↔
      ∃ count, fault = .tooLong count ∧ Overlong written count := by
  have parts : splitOn (String.ofList written) '.' = (written.splitOn '.').map String.ofList := by
    rw [splitOn, String.toList_ofList]
  have failed (f : Except NumeralFault AttributePath) :
      f.mapError SelectorFault.position = .error (.position fault) ↔ f = .error fault := by
    cases f <;> simp [Except.mapError]
  rw [readPath, AttributePath.read, parts, List.all_map]
  split
  next all =>
    have proper := List.all_eq_true.mp all
    rw [failed, List.mapM_map, mapM_eq_error_iff]
    constructor
    · rintro ⟨before, part, after, split, fine, failed⟩
      have inside : part ∈ written.splitOn '.' := by simp [split]
      obtain ⟨decimals, rfl, long⟩ := (part_fails_iff (proper part inside)).mp failed
      refine ⟨part.length, rfl, .mk split proper ?_ decimals rfl long⟩
      intro other member
      obtain ⟨segment, read⟩ := fine other member
      exact ⟨segment, step_iff.mp ⟨proper other (by simp [split, member]), read⟩⟩
    · rintro ⟨_, rfl, @⟨before, after, part, split, _, earlier, decimals, rfl, long⟩⟩
      have inside : part ∈ written.splitOn '.' := by simp [split]
      refine ⟨before, part, after, split, ?_,
        (part_fails_iff (proper part inside)).mpr ⟨decimals, rfl, long⟩⟩
      intro other member
      obtain ⟨segment, step⟩ := earlier other member
      exact ⟨segment, (step_iff.mpr step).2⟩
  next improper =>
    refine iff_of_false (by simp) ?_
    rintro ⟨_, _, @⟨_, _, _, _, proper, _⟩⟩
    exact improper (List.all_eq_true.mpr proper)

theorem readLiteral_position {raw : List Char} {text : String} {fault : NumeralFault} :
    readLiteral raw text ≠ .error (.position fault) := by
  intro failed
  rw [readLiteral] at failed
  repeat' split at failed
  all_goals cases failed

theorem readConstraints_position_iff {text : String} {size : Nat} {rest : List Char}
    {done : List Constraint} {fault : NumeralFault} :
    readConstraints text size rest done = .error (.position fault) ↔
      ∃ count, fault = .tooLong count ∧ Overrun rest count := by
  constructor
  · intro failed
    fun_induction readConstraints text size rest done with
    | case1 => cases failed
    | case2 => cases failed
    | case3 rest done _ written value after found other path =>
      cases failed
      obtain ⟨count, rfl, overlong⟩ := (readPath_position_iff text).mp path
      obtain ⟨front, back, tail, opening, space, _, _, rfl, taken⟩ := takeConstraint?_iff.mp found
      exact ⟨count, rfl, .here opening overlong space (ended_iff.mp ⟨value, after, taken⟩)⟩
    | case4 rest done _ written after steps path found _ ih =>
      obtain ⟨count, rfl, later⟩ := ih failed
      obtain ⟨strays, clause⟩ : ∃ strays, Clause strays rest ⟨steps, none⟩ after :=
        (clause_iff text).mp ⟨written, none, found, path, rfl⟩
      exact ⟨count, rfl, .past clause later⟩
    | case5 _ _ _ _ _ _ _ _ _ other literal =>
      cases failed
      exact absurd literal readLiteral_position
    | case6 rest done _ written after steps path raw found literal made _ ih =>
      obtain ⟨count, rfl, later⟩ := ih failed
      have read : (some raw).mapM (readLiteral · text) = .ok (some literal) :=
        map_eq_ok_iff.mpr ⟨literal, made, rfl⟩
      obtain ⟨strays, clause⟩ : ∃ strays, Clause strays rest ⟨steps, some literal⟩ after :=
        (clause_iff text).mp ⟨written, some raw, found, path, read⟩
      exact ⟨count, rfl, .past clause later⟩
  · rintro ⟨count, rfl, overrun⟩
    induction overrun generalizing done with
    | here opening overlong space ended =>
      obtain ⟨value, after, taken⟩ := ended_iff.mpr ended
      obtain ⟨filled, chars⟩ := overlong.chars
      have found := takeConstraint?_iff.mpr ⟨_, _, _, opening, space, filled, chars, rfl, taken⟩
      rw [readConstraints_turn found, (readPath_position_iff text).mpr ⟨_, rfl, overlong⟩]
      rfl
    | past clause _ ih =>
      obtain ⟨written, value, found, path, read⟩ := (clause_iff text).mpr ⟨_, clause⟩
      rw [readConstraints_taken found path read]
      exact ih

theorem Overrun.head {text : List Char} {count : Nat} (overrun : Overrun text count) :
    ∀ c, text.head? = some c → isIdentifierChar c = false := by
  intro c first
  cases overrun with
  | here =>
    cases first
    decide
  | past clause _ =>
    cases clause
    cases first
    decide

theorem read_position_iff {text : String} {fault : NumeralFault} :
    Selector.read text = .error (.position fault) ↔
      ∃ count, fault = .tooLong count ∧ Stumbles (strip text).toList count := by
  rw [Selector.read]
  constructor
  · intro failed
    simp only at failed
    split at failed
    next start =>
      obtain ⟨count, rfl, overrun⟩ := readConstraints_position_iff.mp (map_eq_error_iff.mp failed)
      have identifier := identifier_taken start
      rw [String.toList_ofList] at identifier
      have stumbles := Stumbles.mk identifier overrun
      rw [List.takeWhile_append_dropWhile] at stumbles
      exact ⟨count, rfl, stumbles⟩
    next => cases failed
  · rintro ⟨count, rfl, stumbles⟩
    generalize (strip text).toList = stripped at stumbles ⊢
    obtain ⟨identifier, overrun⟩ := stumbles
    obtain ⟨start, taken, left⟩ := kind_taken identifier overrun.head
    simp only [start, taken, left, if_true, readConstraints_position_iff.mpr ⟨_, rfl, overrun⟩]
    rfl

theorem clause_suffix {strays : Nat} {text after : List Char} {constraint : Constraint}
    (clause : Clause strays text constraint after) : after <:+ text := by
  obtain @⟨front, written, back, rest, _, _, _, _, _, _, value⟩ := clause
  cases value with
  | absent => exact ⟨'[' :: (front ++ (written ++ (back ++ [']']))), by simp⟩
  | @equal _ gap raw close _ _ _ _ _ =>
    exact ⟨'[' :: (front ++ (written ++ (back ++ '=' :: (gap ++ (raw ++ (close ++ [']'])))))),
      by simp⟩

/-- The overlong position stands in the text. -/
theorem Overrun.run {text : List Char} {count : Nat} (overrun : Overrun text count) :
    ∃ run, run <:+: text ∧ (∀ c ∈ run, isDecimal c = true) ∧ maxDigits < run.length := by
  induction overrun with
  | @here front written back rest count opening overlong space ended =>
    obtain @⟨before, after, part, split, _, _, decimals, rfl, long⟩ := overlong
    have whole : ['.'].intercalate (written.splitOn '.') = written := List.intercalate_splitOn '.'
    have inside : part <:+: ['.'].intercalate (written.splitOn '.') :=
      infix_intercalate (by simp [split])
    rw [whole] at inside
    have around : written <:+: '[' :: (front ++ (written ++ (back ++ rest))) :=
      ⟨'[' :: front, back ++ rest, by simp⟩
    exact ⟨part, inside.trans around, decimals, long⟩
  | past clause _ ih =>
    obtain ⟨run, inside, decimals, long⟩ := ih
    exact ⟨run, inside.trans (clause_suffix clause).isInfix, decimals, long⟩

theorem strip_infix (text : String) : (strip text).toList <:+: text.toList := by
  rw [strip, String.toList_ofList]
  have back := List.dropWhile_suffix isBlank (l := (text.toList.dropWhile isBlank).reverse)
  have front := List.dropWhile_suffix isBlank (l := text.toList)
  rw [← List.reverse_prefix, List.reverse_reverse] at back
  exact back.isInfix.trans front.isInfix

theorem Stumbles.run {text : String} {count : Nat} (stumbles : Stumbles (strip text).toList count) :
    ∃ run, run <:+: text.toList ∧ (∀ c ∈ run, isDecimal c = true) ∧ maxDigits < run.length := by
  have stripped := strip_infix text
  generalize (strip text).toList = inner at stumbles stripped
  obtain @⟨kind, rest, _, _, overrun⟩ := stumbles
  obtain ⟨run, inside, decimals, long⟩ := overrun.run
  exact ⟨run, (inside.trans (List.suffix_append kind rest).isInfix).trans stripped, decimals, long⟩

theorem stumbles_iff {text : String} {count : Nat} :
    Selector.read text = .error (.position (.tooLong count)) ↔
      Stumbles (strip text).toList count := by
  rw [read_position_iff]
  constructor
  · rintro ⟨_, ⟨⟩, stumbles⟩
    exact stumbles
  · intro stumbles
    exact ⟨count, rfl, stumbles⟩

theorem read_outcomes (text : String) :
    (∃ selector, Selector.read text = .ok selector) ∨
      (∃ fault, Selector.read text = .error fault ∧
        (Fault.selector fault).kind = "SelectorError") ∨
      ∃ count, Selector.read text = .error (.position (.tooLong count)) := by
  cases outcome : Selector.read text with
  | ok selector => exact .inl ⟨selector, rfl⟩
  | error fault =>
    cases fault with
    | position inner =>
      obtain ⟨count, rfl, _⟩ := read_position_iff.mp outcome
      exact .inr (.inr ⟨count, rfl⟩)
    | _ => exact .inr (.inl ⟨_, rfl, rfl⟩)

/-- A text is read, or refused as no selector, or stumbled at: of the last kind are those with an
overlong position. Without a long run of digits there are none. -/
theorem refused_as_selector_unless_overlong (text : String) :
    ((∃ selector, Selector.read text = .ok selector) ∨
        (∃ fault, Selector.read text = .error fault ∧
          (Fault.selector fault).kind = "SelectorError") ∨
        ∃ count, Selector.read text = .error (.position (.tooLong count))) ∧
      (∀ count, Selector.read text = .error (.position (.tooLong count)) ↔
        Stumbles (strip text).toList count) ∧
      ((∀ run, run <:+: text.toList → (∀ c ∈ run, isDecimal c = true) → run.length ≤ maxDigits) →
        (∃ selector, Selector.read text = .ok selector) ∨
          ∃ fault, Selector.read text = .error fault ∧
            (Fault.selector fault).kind = "SelectorError") := by
  refine ⟨read_outcomes text, fun count => stumbles_iff, ?_⟩
  intro short
  rcases read_outcomes text with read | refused | ⟨count, stumbled⟩
  · exact .inl read
  · exact .inr refused
  · obtain ⟨run, inside, decimals, long⟩ := (stumbles_iff.mp stumbled).run
    exact absurd (short run inside decimals) (Nat.not_le.mpr long)

theorem lone_position_stumbles {run : List Char} (decimals : ∀ c ∈ run, isDecimal c = true)
    (long : maxDigits < run.length) :
    Selector.read (String.ofList ('k' :: '[' :: (run ++ [']']))) =
      .error (.position (.tooLong run.length)) := by
  have filled : run ≠ [] := List.ne_nil_of_length_pos (Nat.zero_lt_of_lt long)
  have pointless : run.splitOn '.' = [] ++ [run] := by
    apply List.splitOn_eq_singleton
    intro point
    exact absurd (decimals '.' point) (by decide +kernel)
  have part : isPathPart (String.ofList run) = true := by
    rw [isPathPart, String.toList_ofList, text_filled filled, List.all_eq_true.mpr decimals,
      Bool.or_eq_true]
    exact .inr rfl
  have overlong : Overlong run run.length := by
    refine .mk pointless ?_ (List.forall_mem_nil _) decimals rfl long
    rw [pointless, List.nil_append, List.forall_mem_singleton]
    exact part
  have solid : ∀ c ∈ 'k' :: '[' :: (run ++ [']']), isBlank c = false := by
    rw [List.forall_mem_cons, List.forall_mem_cons, List.forall_mem_append,
      List.forall_mem_singleton]
    exact ⟨by decide, by decide, fun c member => (decimal_bare (decimals c member)).1.1, by decide⟩
  have tight : Blanks [] := List.forall_mem_nil _
  rw [stumbles_iff, strip_solid solid]
  have kind : isIdentifier ['k'] = true := by decide
  exact .mk kind (.here tight overlong tight .absent)

/-- A number of 4301 digits is refused as a number, where the text should be refused as a
selector. -/
theorem long_position_refused_as_number :
    Selector.read (String.ofList ('k' :: '[' :: (List.replicate 4301 '1' ++ [']']))) =
        .error (.position (.tooLong 4301)) ∧
      (Fault.selector (.position (.tooLong 4301))).kind = "ValueError" := by
  have decimals : ∀ c ∈ List.replicate 4301 '1', isDecimal c = true := by
    intro c member
    rw [List.eq_of_mem_replicate member]
    decide +kernel
  have size : (List.replicate 4301 '1').length = 4301 := List.length_replicate
  have stumbled := lone_position_stumbles decimals (by rw [size]; decide)
  rw [size] at stumbled
  exact ⟨stumbled, rfl⟩

end AngularLint.Proofs.SelectorFaults
