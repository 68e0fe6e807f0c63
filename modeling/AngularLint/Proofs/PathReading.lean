import AngularLint.Proofs.NumeralGrammar

/-! Looking up a dotted path. A part between two points that is made of digits is taken for a
position. Not all digits spell numbers, and not all numbers are short enough to be read, so a look-up
fails at the first part that only looks like a position. All other look-ups lead somewhere or
nowhere. -/

namespace AngularLint.Proofs.PathReading
open AngularLint.Text AngularLint.Number Numerals NumeralGrammar Outcomes PathText

/-- What one part of a path is read as. Behind some decimal digits, `figure` is a digit without a
value in a numeral. -/
inductive Reading : List Char → Except NumeralFault Segment → Prop where
  | name {part : List Char} (mixed : part = [] ∨ ∃ c ∈ part, Text.isDigit c = false) :
      Reading part (.ok (.name (String.ofList part)))
  | position {part : List Char} {digits : List Nat} (filled : part ≠ [])
      (decimals : List.Forall₂ (fun c value => decimalValue? c = some value) part digits)
      (short : digits.length ≤ maxDigits) : Reading part (.ok (.position (ofDigits digits)))
  | overlong {run rest : List Char} (decimals : ∀ c ∈ run, isDecimal c = true)
      (stops : ∀ c, rest.head? = some c → isDecimal c = false)
      (figures : ∀ c ∈ rest, Text.isDigit c = true) (long : maxDigits < run.length) :
      Reading (run ++ rest) (.error (.tooLong run.length))
  | figure {run rest : List Char} {figure : Char} (decimals : ∀ c ∈ run, isDecimal c = true)
      (stops : isDecimal figure = false) (figures : ∀ c ∈ figure :: rest, Text.isDigit c = true)
      (short : run.length ≤ maxDigits) :
      Reading (run ++ figure :: rest)
        (.error (.malformed (String.ofList (run ++ figure :: rest))))

/-- A part that is made of digits, but is not a number that can be read. -/
structure Misleading (part : List Char) : Prop where
  filled : part ≠ []
  digits : ∀ c ∈ part, Text.isDigit c = true
  unread : (∃ c ∈ part, isDecimal c = false) ∨ maxDigits < part.length

theorem digits_of_forall₂ {part : List Char} {digits : List Nat}
    (decimals : List.Forall₂ (fun c value => decimalValue? c = some value) part digits) :
    Digits part digits := by
  induction decimals with
  | nil => exact .none
  | cons digit _ ih => exact .next digit ih

theorem decimals_iff {part : List Char} :
    part.all isDecimal = true ↔
      ∃ digits, List.Forall₂ (fun c value => decimalValue? c = some value) part digits := by
  constructor
  · intro all
    induction part with
    | nil => exact ⟨[], .nil⟩
    | cons c rest ih =>
      rw [List.all_cons, Bool.and_eq_true] at all
      obtain ⟨value, digit⟩ := Option.isSome_iff_exists.mp all.1
      obtain ⟨values, later⟩ := ih all.2
      exact ⟨value :: values, .cons digit later⟩
  · rintro ⟨digits, decimals⟩
    induction decimals with
    | nil => rfl
    | cons digit _ ih => rw [List.all_cons, isDecimal_of_value digit, ih, Bool.and_true]

theorem text_filled {part : List Char} (filled : part ≠ []) :
    (String.ofList part).isEmpty = false := by
  rw [← Bool.not_eq_true, String.isEmpty_iff, ← String.toList_inj, String.toList_ofList]
  exact filled

/-- The digits of every script lie outside the blanks, and none is a mark of a number. -/
theorem digit_bare {c : Char} (digit : Text.isDigit c = true) :
    isBlank c = false ∧ c ≠ '_' ∧ c ≠ '+' ∧ c ≠ '-' := by
  rcases (Bool.or_eq_true _ _).mp digit with decimal | figure
  · obtain ⟨⟨solid, _⟩, bar, plus, minus, _⟩ := decimal_bare decimal
    exact ⟨solid, bar, plus, minus⟩
  · have apart : ∀ row ∈ otherDigitRanges, ∀ range ∈ blankRanges,
        row.2 < range.1 ∨ range.2 < row.1 := by decide
    rw [inRanges, List.any_eq_true] at figure
    obtain ⟨row, member, inside⟩ := figure
    simp only [Bool.and_eq_true, decide_eq_true_eq] at inside
    have solid : isBlank c = false := by
      rw [isBlank, inRanges, List.any_eq_false]
      intro range listed
      have disjoint := apart row member range listed
      simp only [Bool.and_eq_true, decide_eq_true_eq]
      omega
    have high : ∀ row ∈ otherDigitRanges, '_'.toNat < row.1 := by decide
    have above : '_'.toNat < c.toNat := Nat.lt_of_lt_of_le (high row member) inside.1
    refine ⟨solid, ?_, ?_, ?_⟩ <;> rintro rfl <;> exact absurd above (by decide)

/-- A run of decimal digits with digits of another kind behind it is read up to those. -/
theorem readInteger_digits {run rest : List Char} {digits : List Nat}
    (decimals : List.Forall₂ (fun c value => decimalValue? c = some value) run digits)
    (stops : ∀ c, rest.head? = some c → isDecimal c = false)
    (figures : ∀ c ∈ run ++ rest, Text.isDigit c = true) :
    readInteger (String.ofList (run ++ rest)) =
      if digits.length > maxDigits then .error (.tooLong digits.length)
      else if digits.isEmpty || !rest.isEmpty then
        .error (.malformed (String.ofList (run ++ rest)))
      else .ok (Int.ofNat (ofDigits digits)) := by
  have plain : ∀ c, (run ++ rest).head? = some c → c ≠ '+' ∧ c ≠ '-' := by
    intro c first
    exact (digit_bare (figures c (List.mem_of_head? first))).2.2
  have ends : Stops rest := by
    intro c first
    have later : c ∈ run ++ rest := List.mem_append_right run (List.mem_of_head? first)
    exact ⟨Option.not_isSome_iff_eq_none.mp (by simpa [isDecimal] using stops c first),
      (digit_bare (figures c later)).2.1⟩
  rw [readInteger, strip_solid fun c member => (digit_bare (figures c member)).1,
    takeSign_signed .bare plain]
  simp only [takeDigits_run (digits_of_forall₂ decimals) ends]
  rfl

theorem read_run {run rest : List Char} {digits : List Nat}
    (decimals : List.Forall₂ (fun c value => decimalValue? c = some value) run digits)
    (stops : ∀ c, rest.head? = some c → isDecimal c = false)
    (figures : ∀ c ∈ rest, Text.isDigit c = true) (filled : run ++ rest ≠ []) :
    Segment.read (String.ofList (run ++ rest)) =
      if run.length > maxDigits then .error (.tooLong run.length)
      else if rest.isEmpty then .ok (.position (ofDigits digits))
      else .error (.malformed (String.ofList (run ++ rest))) := by
  have front := List.all_eq_true.mp (digits_of_decimals (decimals_iff.mpr ⟨digits, decimals⟩))
  have all : ∀ c ∈ run ++ rest, Text.isDigit c = true := List.forall_mem_append.mpr ⟨front, figures⟩
  have here : (!(String.ofList (run ++ rest)).isEmpty &&
      (String.ofList (run ++ rest)).toList.all Text.isDigit) = true := by
    rw [text_filled filled, String.toList_ofList, List.all_eq_true.mpr all]
    rfl
  rw [Segment.read, if_pos here, readInteger_digits decimals stops all, ← decimals.length_eq]
  split
  next => rfl
  next =>
    cases rest with
    | cons figure more => simp [Except.map]
    | nil =>
      -- Without another digit behind them there are decimal digits.
      cases decimals with
      | nil => exact absurd rfl filled
      | cons => rfl

theorem read_mixed {part : List Char} (mixed : part = [] ∨ ∃ c ∈ part, Text.isDigit c = false) :
    Segment.read (String.ofList part) = .ok (.name (String.ofList part)) := by
  rw [Segment.read, if_neg]
  rcases mixed with rfl | ⟨c, member, other⟩
  · decide +kernel
  · have some : part.all Text.isDigit = false :=
      List.all_eq_false.mpr ⟨c, member, Bool.eq_false_iff.mp other⟩
    rw [String.toList_ofList, some, Bool.and_false]
    exact Bool.false_ne_true

theorem Reading.read {part : List Char} {outcome : Except NumeralFault Segment}
    (reading : Reading part outcome) : Segment.read (String.ofList part) = outcome := by
  cases reading with
  | name mixed => exact read_mixed mixed
  | @position part digits filled decimals short =>
    rw [← List.append_nil part] at filled ⊢
    rw [read_run decimals (by simp) (List.forall_mem_nil _) filled, decimals.length_eq,
      if_neg (Nat.not_lt.mpr short)]
    rfl
  | @overlong run rest decimals stops figures long =>
    have filled : run ++ rest ≠ [] :=
      List.append_ne_nil_of_left_ne_nil (List.ne_nil_of_length_pos (Nat.zero_lt_of_lt long)) rest
    obtain ⟨digits, values⟩ := decimals_iff.mp (List.all_eq_true.mpr decimals)
    rw [read_run values stops figures filled, if_pos long]
  | @figure run rest figure decimals stops figures short =>
    have ends : ∀ c, (figure :: rest).head? = some c → isDecimal c = false := by
      intro c first
      cases first
      exact stops
    obtain ⟨digits, values⟩ := decimals_iff.mp (List.all_eq_true.mpr decimals)
    rw [read_run values ends figures (by simp), if_neg (Nat.not_lt.mpr short)]
    rfl

/-- Each part has a reading: the decimal digits at its front tell which. -/
theorem reading_exists (part : List Char) : ∃ outcome, Reading part outcome := by
  by_cases mixed : part = [] ∨ ∃ c ∈ part, Text.isDigit c = false
  · exact ⟨_, .name mixed⟩
  · rw [not_or] at mixed
    obtain ⟨filled, others⟩ := mixed
    have digits : ∀ c ∈ part, Text.isDigit c = true := by simpa using others
    have split := List.takeWhile_append_dropWhile (p := isDecimal) (l := part)
    have decimals : ∀ c ∈ part.takeWhile isDecimal, isDecimal c = true :=
      fun _ member => List.mem_takeWhile_imp member
    have stops : ∀ c, (part.dropWhile isDecimal).head? = some c → isDecimal c = false := by
      intro c first
      have other := List.head?_dropWhile_not isDecimal part
      rwa [first] at other
    generalize part.takeWhile isDecimal = run at *
    generalize part.dropWhile isDecimal = rest at *
    subst split
    obtain ⟨_, figures⟩ := List.forall_mem_append.mp digits
    by_cases long : maxDigits < run.length
    · exact ⟨_, .overlong decimals stops figures long⟩
    · cases rest with
      | nil =>
        obtain ⟨digits, values⟩ := decimals_iff.mp (List.all_eq_true.mpr decimals)
        rw [List.append_nil] at filled ⊢
        exact ⟨_, .position filled values (values.length_eq ▸ Nat.not_lt.mp long)⟩
      | cons figure rest =>
        exact ⟨_, .figure decimals (stops figure rfl) figures (Nat.not_lt.mp long)⟩

theorem reading_iff {part : List Char} {outcome : Except NumeralFault Segment} :
    Segment.read (String.ofList part) = outcome ↔ Reading part outcome := by
  constructor
  · rintro rfl
    obtain ⟨outcome, reading⟩ := reading_exists part
    rw [reading.read]
    exact reading
  · exact Reading.read

/-- A part cannot be read just if it is misleading. -/
theorem unread_iff {part : List Char} :
    (∃ fault, Reading part (.error fault)) ↔ Misleading part := by
  constructor
  · rintro ⟨fault, reading⟩
    cases reading with
    | @overlong run rest decimals stops figures long =>
      have all := digits_of_decimals (List.all_eq_true.mpr decimals)
      refine ⟨?_, List.forall_mem_append.mpr ⟨List.all_eq_true.mp all, figures⟩, .inr ?_⟩
      · exact List.append_ne_nil_of_left_ne_nil
          (List.ne_nil_of_length_pos (Nat.zero_lt_of_lt long)) rest
      · rw [List.length_append]
        omega
    | @figure run rest figure decimals stops figures short =>
      have all := digits_of_decimals (List.all_eq_true.mpr decimals)
      exact ⟨by simp, List.forall_mem_append.mpr ⟨List.all_eq_true.mp all, figures⟩,
        .inl ⟨figure, by simp, stops⟩⟩
  · rintro ⟨filled, digits, unread⟩
    obtain ⟨outcome, reading⟩ := reading_exists part
    cases reading with
    | name mixed =>
      rcases mixed with none | ⟨c, member, other⟩
      · exact absurd none filled
      · rw [digits c member] at other
        cases other
    | position filled decimals short =>
      have all := List.all_eq_true.mp (decimals_iff.mpr ⟨_, decimals⟩)
      rcases unread with ⟨c, member, other⟩ | long
      · rw [all c member] at other
        cases other
      · rw [← decimals.length_eq] at short
        exact absurd short (Nat.not_le.mpr long)
    | overlong decimals stops figures long => exact ⟨_, .overlong decimals stops figures long⟩
    | figure decimals stops figures short => exact ⟨_, .figure decimals stops figures short⟩

theorem step_read_iff {part : List Char} :
    (∃ step, Reading part (.ok step)) ↔ ¬ Misleading part := by
  rw [← unread_iff]
  constructor
  · rintro ⟨step, reading⟩ ⟨fault, other⟩
    cases reading.read.symm.trans other.read
  · intro readable
    obtain ⟨outcome, reading⟩ := reading_exists part
    cases outcome with
    | error fault => exact absurd ⟨fault, reading⟩ readable
    | ok step => exact ⟨step, reading⟩

theorem resolve_ok_iff {node : Node} {path : String} {value : Option Value} :
    node.resolve path = .ok value ↔
      ∃ steps, List.Forall₂ (fun part step => Reading part (.ok step)) (path.toList.splitOn '.')
        steps ∧ node.lookup steps = value := by
  simp only [Node.resolve, map_eq_ok_iff, AttributePath.read, splitOn, mapM_eq_ok_iff,
    List.forall₂_map_left_iff, reading_iff]

theorem resolve_error_iff {node : Node} {path : String} {fault : NumeralFault} :
    node.resolve path = .error fault ↔
      ∃ before part after, path.toList.splitOn '.' = before ++ part :: after ∧
        (∀ earlier ∈ before, ∃ step, Reading earlier (.ok step)) ∧
        Reading part (.error fault) := by
  rw [Node.resolve, map_eq_error_iff, AttributePath.read, splitOn, List.mapM_map,
    mapM_eq_error_iff]
  simp only [Function.comp_apply, reading_iff]

/-- A look-up fails just if some part of the path is misleading, and with the fault of the first
such part. Otherwise it leads along the steps that the parts are read as. -/
theorem lookup_unless_misleading (node : Node) (path : String) :
    (∀ value, node.resolve path = .ok value ↔
        ∃ steps, List.Forall₂ (fun part step => Reading part (.ok step)) (path.toList.splitOn '.')
          steps ∧ node.lookup steps = value) ∧
      (∀ fault, node.resolve path = .error fault ↔
        ∃ before part after, path.toList.splitOn '.' = before ++ part :: after ∧
          (∀ earlier ∈ before, ¬ Misleading earlier) ∧ Reading part (.error fault)) ∧
      ((∃ value, node.resolve path = .ok value) ↔
        ∀ part ∈ path.toList.splitOn '.', ¬ Misleading part) := by
  refine ⟨fun value => resolve_ok_iff, ?_, ?_⟩
  · intro fault
    simp only [resolve_error_iff, step_read_iff]
  · cases outcome : node.resolve path with
    | ok value =>
      obtain ⟨steps, each, _⟩ := resolve_ok_iff.mp outcome
      refine iff_of_true ⟨value, rfl⟩ ?_
      intro part member
      obtain ⟨step, _, reading⟩ := forall₂_mem each.flip member
      exact step_read_iff.mp ⟨step, reading⟩
    | error fault =>
      obtain ⟨before, part, after, split, _, reading⟩ := resolve_error_iff.mp outcome
      refine iff_of_false ?_ ?_
      · rintro ⟨value, same⟩
        cases same
      · intro fine
        have member : part ∈ path.toList.splitOn '.' := by
          rw [split]
          exact List.mem_append_right before List.mem_cons_self
        exact fine part member (unread_iff.mp ⟨fault, reading⟩)

def emptyProgram : Node :=
  ⟨"program", 0, .point 0, ⟨[("text", .text "")]⟩, []⟩

/-- A superscript is a digit, but spells no position. -/
theorem superscript_fails :
    emptyProgram.resolve "²" = .error (.malformed "²") ∧
      (NumeralFault.malformed "²").message = "invalid literal for int() with base 10: '²'" ∧
      ¬ ∃ value, emptyProgram.resolve "²" = .ok value := by
  have unread : AttributePath.read "²" = .error (.malformed "²") := by decide +kernel
  have failed : emptyProgram.resolve "²" = .error (.malformed "²") := by
    rw [Node.resolve, unread]
    rfl
  refine ⟨failed, by decide +kernel, ?_⟩
  rintro ⟨value, same⟩
  cases failed.symm.trans same

end AngularLint.Proofs.PathReading
