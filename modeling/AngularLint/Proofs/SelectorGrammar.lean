import AngularLint.Proofs.LiteralGrammar
import AngularLint.Proofs.PathReading
import AngularLint.Proofs.SelectorText

/-! The texts of selectors: a kind, and constraints in brackets. The reader accepts the texts of
this grammar, with the kind, the paths and the literals that they spell. Beyond the grammar it
accepts a text only if the value of some constraint strays from the literals. -/

namespace AngularLint.Proofs.SelectorGrammar
open AngularLint.Text AngularLint.Number Numerals Outcomes PathText LiteralText NumeralGrammar
open LiteralGrammar PathReading SelectorText

/-- One step of a path: an identifier, or a position in digits of any script. -/
inductive Step : List Char → Segment → Prop where
  | name {part : List Char} (identifier : isIdentifier part = true) :
      Step part (.name (String.ofList part))
  | position {part : List Char} {digits : List Nat} (filled : part ≠ [])
      (decimals : List.Forall₂ (fun c value => decimalValue? c = some value) part digits)
      (short : digits.length ≤ maxDigits) : Step part (.position (ofDigits digits))

inductive Dotted : List Char → AttributePath → Prop where
  | last {part : List Char} {segment : Segment} (step : Step part segment) : Dotted part [segment]
  | next {part text : List Char} {segment : Segment} {path : AttributePath}
      (step : Step part segment) (later : Dotted text path) :
      Dotted (part ++ '.' :: text) (segment :: path)

/-- What follows the path of a constraint, up to `after`, and how many values stray in it. -/
inductive Value : Nat → List Char → Option Literal → List Char → Prop where
  | absent {after : List Char} : Value 0 (']' :: after) none after
  | equal {strays : Nat} {gap raw close after : List Char} {literal : Literal} (space : Blanks gap)
      (closing : Blanks close) (reads : Reads raw (close ++ ']' :: after) strays literal) :
      Value strays ('=' :: (gap ++ (raw ++ (close ++ ']' :: after)))) (some literal) after

inductive Clause (strays : Nat) : List Char → Constraint → List Char → Prop where
  | mk {front written back rest after : List Char} {path : AttributePath}
      {expected : Option Literal} (opening : Blanks front) (dotted : Dotted written path)
      (space : Blanks back) (value : Value strays rest expected after) :
      Clause strays ('[' :: (front ++ (written ++ (back ++ rest)))) ⟨path, expected⟩ after

inductive Clauses : Nat → List Char → List Constraint → Prop where
  | nil : Clauses 0 [] []
  | cons {here there : Nat} {text after : List Char} {constraint : Constraint}
      {others : List Constraint} (clause : Clause here text constraint after)
      (later : Clauses there after others) : Clauses (here + there) text (constraint :: others)

/-- The text spells the selector, with so many values that stray from the grammar of literals. -/
inductive Spelled (strays : Nat) : List Char → Selector → Prop where
  | mk {kind text : List Char} {constraints : List Constraint}
      (identifier : isIdentifier kind = true) (clauses : Clauses strays text constraints) :
      Spelled strays (kind ++ text) ⟨String.ofList kind, constraints⟩

def isPathChar (c : Char) : Bool :=
  c != ']' && c != '=' && !isBlank c

theorem part_chars {part : List Char} (proper : isPathPart (String.ofList part) = true) :
    part ≠ [] ∧ ∀ c ∈ part, isPathChar c = true ∧ c ≠ '.' := by
  rw [isPathPart, String.toList_ofList, Bool.or_eq_true, Bool.and_eq_true] at proper
  rcases proper with identifier | ⟨filled, decimals⟩
  · obtain ⟨first, rest, split, _, chars⟩ := identifier_chars identifier
    refine ⟨by simp [split], ?_⟩
    intro c member
    have char := chars c member
    obtain ⟨solid, unclosed, _⟩ := identifierChar_bare char
    have unequal : c ≠ '=' := by
      rintro rfl
      exact absurd char (by decide)
    refine ⟨by simp [isPathChar, solid, unclosed, unequal], ?_⟩
    rintro rfl
    exact absurd char (by decide)
  · refine ⟨?_, ?_⟩
    · rintro rfl
      exact absurd filled (by decide +kernel)
    · intro c member
      rw [List.all_eq_true] at decimals
      obtain ⟨⟨solid, unclosed, _⟩, _, _, _, point, unequal⟩ := decimal_bare (decimals c member)
      exact ⟨by simp [isPathChar, solid, unclosed, unequal], point⟩

theorem read_name {part : List Char} (identifier : isIdentifier part = true) :
    Segment.read (String.ofList part) = .ok (.name (String.ofList part)) := by
  obtain ⟨first, rest, rfl, start, _⟩ := identifier_chars identifier
  have mixed : ∃ c ∈ first :: rest, Text.isDigit c = false :=
    ⟨first, List.mem_cons_self, isDigit_of_start start⟩
  exact (Reading.name (.inr mixed)).read

theorem read_position {part : List Char} {digits : List Nat} (filled : part ≠ [])
    (decimals : List.Forall₂ (fun c value => decimalValue? c = some value) part digits) :
    Segment.read (String.ofList part) =
      if digits.length > maxDigits then .error (.tooLong digits.length)
      else .ok (.position (ofDigits digits)) := by
  split
  next long =>
    have all := List.all_eq_true.mp (decimals_iff.mpr ⟨digits, decimals⟩)
    rw [← decimals.length_eq] at long ⊢
    have reading := Reading.overlong all (by simp) (List.forall_mem_nil _) long
    rw [List.append_nil] at reading
    exact reading.read
  next short => exact (Reading.position filled decimals (Nat.not_lt.mp short)).read

theorem step_iff {part : List Char} {segment : Segment} :
    isPathPart (String.ofList part) = true ∧ Segment.read (String.ofList part) = .ok segment ↔
      Step part segment := by
  rw [isPathPart, String.toList_ofList, Bool.or_eq_true, Bool.and_eq_true, decimals_iff]
  constructor
  · rintro ⟨identifier | ⟨nonempty, digits, decimals⟩, read⟩
    · rw [read_name identifier] at read
      cases read
      exact .name identifier
    · have filled : part ≠ [] := by
        rintro rfl
        exact absurd nonempty (by decide +kernel)
      rw [read_position filled decimals] at read
      split at read
      next => cases read
      next short =>
        cases read
        exact .position filled decimals (Nat.not_lt.mp short)
  · intro step
    cases step with
    | name identifier => exact ⟨.inl identifier, read_name identifier⟩
    | position filled decimals short =>
      refine ⟨.inr ⟨?_, _, decimals⟩, ?_⟩
      · rw [text_filled filled]
        rfl
      · rw [read_position filled decimals, if_neg (Nat.not_lt.mpr short)]

theorem Step.chars {part : List Char} {segment : Segment} (step : Step part segment) :
    part ≠ [] ∧ ∀ c ∈ part, isPathChar c = true ∧ c ≠ '.' :=
  part_chars (step_iff.mpr step).1

theorem dotted_intercalate {parts : List (List Char)} {path : AttributePath}
    (steps : List.Forall₂ Step parts path) (filled : parts ≠ []) :
    Dotted (['.'].intercalate parts) path := by
  induction steps with
  | nil => exact absurd rfl filled
  | @cons part segment parts path step later ih =>
    cases parts with
    | nil =>
      cases later
      rw [List.intercalate_singleton]
      exact .last step
    | cons next more =>
      rw [List.intercalate_cons_cons, List.append_assoc, List.singleton_append]
      exact .next step (ih (List.cons_ne_nil next more))

theorem dotted_iff {written : List Char} {path : AttributePath} :
    List.Forall₂ Step (written.splitOn '.') path ↔ Dotted written path := by
  constructor
  · intro steps
    have dotted := dotted_intercalate steps (List.splitOn_ne_nil '.' written)
    rwa [List.intercalate_splitOn] at dotted
  · intro dotted
    induction dotted with
    | last step =>
      rw [List.splitOn_eq_singleton fun point => (step.chars.2 '.' point).2 rfl]
      exact .cons step .nil
    | next step _ ih =>
      rw [List.splitOn_append_cons_self,
        List.splitOn_eq_singleton fun point => (step.chars.2 '.' point).2 rfl]
      exact .cons step ih

theorem readPath_iff {written : List Char} {path : AttributePath} (text : String) :
    readPath (String.ofList written) text = .ok path ↔ Dotted written path := by
  have parts : splitOn (String.ofList written) '.' = (written.splitOn '.').map String.ofList := by
    rw [splitOn, String.toList_ofList]
  have steps : List.Forall₂ Step (written.splitOn '.') path ↔
      (∀ part ∈ written.splitOn '.', isPathPart (String.ofList part) = true) ∧
        List.Forall₂ (fun part segment => Segment.read (String.ofList part) = .ok segment)
          (written.splitOn '.') path := by
    rw [← List.forall₂_and_left]
    simp only [step_iff]
  rw [← dotted_iff, steps, readPath, AttributePath.read, parts, List.all_map]
  split
  next proper =>
    rw [mapError_eq_ok_iff, mapM_eq_ok_iff, List.forall₂_map_left_iff]
    exact (and_iff_right (List.all_eq_true.mp proper)).symm
  next improper =>
    constructor
    · intro read
      cases read
    · rintro ⟨proper, _⟩
      exact absurd (List.all_eq_true.mpr proper) improper

theorem Dotted.chars {written : List Char} {path : AttributePath} (dotted : Dotted written path) :
    written ≠ [] ∧ ∀ c ∈ written, isPathChar c = true := by
  induction dotted with
  | last step => exact ⟨step.chars.1, fun c member => (step.chars.2 c member).1⟩
  | next step _ ih =>
    refine ⟨by simp, ?_⟩
    rw [List.forall_mem_append, List.forall_mem_cons]
    exact ⟨fun c member => (step.chars.2 c member).1, by decide, ih.2⟩

/-- The value of a constraint as it is written, if it has one, and what follows the bracket. -/
def takeExpected? : List Char → Option (Option (List Char) × List Char)
  | ']' :: after => some (none, after)
  | '=' :: text =>
    ((quotedValue? (text.dropWhile isBlank)).or (bareValue? (text.dropWhile isBlank))).map
      fun (raw, after) => (some raw, after)
  | _ => none

theorem takeConstraint?_eq (text : List Char) :
    takeConstraint? ('[' :: text) =
      let inside := text.dropWhile isBlank
      let written := inside.takeWhile isPathChar
      if written.isEmpty then none
      else (takeExpected? ((inside.dropWhile isPathChar).dropWhile isBlank)).map
        fun (value, after) => (written, value, after) := by
  have inside : (fun c => c != ']' && c != '=' && !isBlank c) = isPathChar := rfl
  simp only [takeConstraint?, inside]
  split
  next => rfl
  next =>
    generalize ((text.dropWhile isBlank).dropWhile isPathChar).dropWhile isBlank = rest
    split
    next => rfl
    next =>
      simp only [takeExpected?, Option.map_map]
      rfl
    next closed equal =>
      rw [takeExpected?]
      · rfl
      · exact closed
      · exact equal

theorem takeExpected?_head {rest after : List Char} {value : Option (List Char)}
    (found : takeExpected? rest = some (value, after)) :
    ∀ c, rest.head? = some c → isBlank c = false ∧ isPathChar c = false := by
  intro c first
  rw [takeExpected?.eq_def] at found
  split at found
  · cases first
    decide
  · cases first
    decide
  · cases found

/-- Blanks, a path, blanks and a value: the reader finds these parts again. -/
theorem parts_found {front written back rest : List Char} (opening : Blanks front)
    (filled : written ≠ []) (chars : ∀ c ∈ written, isPathChar c = true) (space : Blanks back)
    (head : ∀ c, rest.head? = some c → isBlank c = false ∧ isPathChar c = false) :
    let inside := (front ++ (written ++ (back ++ rest))).dropWhile isBlank
    inside.takeWhile isPathChar = written ∧
      (inside.dropWhile isPathChar).dropWhile isBlank = rest := by
  intro inside
  have solid : ∀ c, (written ++ (back ++ rest)).head? = some c → isBlank c = false := by
    intro c first
    obtain ⟨start, more, rfl⟩ := List.exists_cons_of_ne_nil filled
    cases first
    have char := chars c List.mem_cons_self
    rw [isPathChar, Bool.and_eq_true, Bool.not_eq_true'] at char
    exact char.2
  have stops : ∀ c, (back ++ rest).head? = some c → isPathChar c = false := by
    intro c first
    cases back with
    | nil => exact (head c first).2
    | cons blank more =>
      cases first
      rw [isPathChar, space c List.mem_cons_self, Bool.not_true, Bool.and_false]
  have begun : inside = written ++ (back ++ rest) := dropWhile_blanks opening solid
  obtain ⟨taken, left⟩ := run_ends (back ++ rest) chars stops
  rw [begun, taken, left]
  exact ⟨rfl, dropWhile_blanks space fun c first => (head c first).1⟩

theorem takeConstraint?_iff {text written after : List Char} {value : Option (List Char)} :
    takeConstraint? text = some (written, value, after) ↔
      ∃ front back rest, Blanks front ∧ Blanks back ∧ written ≠ [] ∧
        (∀ c ∈ written, isPathChar c = true) ∧
        text = '[' :: (front ++ (written ++ (back ++ rest))) ∧
        takeExpected? rest = some (value, after) := by
  constructor
  · intro found
    have opened : ∃ inner, text = '[' :: inner := by
      rw [takeConstraint?.eq_def] at found
      split at found
      next inner => exact ⟨inner, rfl⟩
      next => cases found
    obtain ⟨inner, rfl⟩ := opened
    rw [takeConstraint?_eq] at found
    simp only at found
    split at found
    next => cases found
    next filled =>
      obtain ⟨⟨expected, closed⟩, taken, same⟩ := Option.map_eq_some_iff.mp found
      cases same
      refine ⟨inner.takeWhile isBlank,
        ((inner.dropWhile isBlank).dropWhile isPathChar).takeWhile isBlank, _, blanks_taken _,
        blanks_taken _, by simpa using filled, fun c member => List.mem_takeWhile_imp member, ?_,
        taken⟩
      simp only [List.takeWhile_append_dropWhile]
  · rintro ⟨front, back, rest, opening, space, filled, chars, rfl, taken⟩
    obtain ⟨path, left⟩ := parts_found opening filled chars space (takeExpected?_head taken)
    rw [takeConstraint?_eq]
    simp only [path, left, taken]
    rw [if_neg (by simpa using filled)]
    rfl

theorem dropWhile_reads {gap raw behind : List Char} {strays : Nat} {literal : Literal}
    (space : Blanks gap) (reads : Reads raw behind strays literal) :
    (gap ++ (raw ++ behind)).dropWhile isBlank = raw ++ behind := by
  apply dropWhile_blanks space
  obtain ⟨c, rest, rfl, solid⟩ := reads.head
  intro other first
  cases first
  exact solid

/-- What follows a path is read as the grammar has it, or strays. -/
theorem expected_iff {rest after : List Char} {expected : Option Literal} (text : String) :
    (∃ value, takeExpected? rest = some (value, after) ∧
        value.mapM (readLiteral · text) = .ok expected) ↔
      ∃ strays, Value strays rest expected after := by
  constructor
  · rintro ⟨value, taken, read⟩
    rw [takeExpected?.eq_def] at taken
    split at taken
    next =>
      cases taken
      cases read
      exact ⟨0, .absent⟩
    next text =>
      obtain ⟨⟨raw, closed⟩, found, same⟩ := Option.map_eq_some_iff.mp taken
      cases same
      obtain ⟨literal, made, same⟩ := map_eq_ok_iff.mp read
      cases same
      obtain ⟨close, strays, closing, split, reads⟩ := value_iff.mp ⟨found, made⟩
      have whole : text = text.takeWhile isBlank ++ (raw ++ (close ++ ']' :: after)) := by
        rw [← split, List.takeWhile_append_dropWhile]
      rw [whole]
      exact ⟨strays, .equal (blanks_taken text) closing reads⟩
    next => cases taken
  · rintro ⟨strays, value⟩
    cases value with
    | absent => exact ⟨none, rfl, rfl⟩
    | @equal _ gap raw close _ literal space closing reads =>
      refine ⟨some raw, ?_, map_eq_ok_iff.mpr ⟨literal, reads.read text, rfl⟩⟩
      rw [takeExpected?, dropWhile_reads space reads, reads.taken closing]
      rfl

/-- One turn of the reader follows the grammar of one constraint. -/
theorem clause_iff {text after : List Char} {constraint : Constraint} (whole : String) :
    (∃ written value, takeConstraint? text = some (written, value, after) ∧
        readPath (String.ofList written) whole = .ok constraint.path ∧
        value.mapM (readLiteral · whole) = .ok constraint.expected) ↔
      ∃ strays, Clause strays text constraint after := by
  constructor
  · rintro ⟨written, value, found, path, read⟩
    obtain ⟨front, back, rest, opening, space, _, _, rfl, taken⟩ := takeConstraint?_iff.mp found
    obtain ⟨strays, spelled⟩ := (expected_iff whole).mp ⟨value, taken, read⟩
    exact ⟨strays, .mk opening ((readPath_iff whole).mp path) space spelled⟩
  · rintro ⟨strays, opening, dotted, space, spelled⟩
    obtain ⟨value, taken, read⟩ := (expected_iff whole).mpr ⟨strays, spelled⟩
    obtain ⟨filled, chars⟩ := dotted.chars
    exact ⟨_, value, takeConstraint?_iff.mpr ⟨_, _, _, opening, space, filled, chars, rfl, taken⟩,
      (readPath_iff whole).mpr dotted, read⟩

theorem clauses_taken {text : String} {rest written after : List Char} {value : Option (List Char)}
    {done constraints : List Constraint} {constraint : Constraint}
    (found : takeConstraint? rest = some (written, value, after))
    (path : readPath (String.ofList written) text = .ok constraint.path)
    (literal : value.mapM (readLiteral · text) = .ok constraint.expected)
    (left : ∃ strays later, Clauses strays after later ∧
      constraints = (constraint :: done).reverse ++ later) :
    ∃ strays later, Clauses strays rest later ∧ constraints = done.reverse ++ later := by
  obtain ⟨here, clause⟩ := (clause_iff text).mp ⟨written, value, found, path, literal⟩
  obtain ⟨there, later, clauses, rfl⟩ := left
  refine ⟨here + there, constraint :: later, .cons clause clauses, ?_⟩
  rw [List.reverse_cons, List.append_assoc, List.singleton_append]

/-- The reader goes on behind each constraint, and holds what it has read in reverse. -/
theorem readConstraints_iff {text : String} {size : Nat} {rest : List Char}
    {done constraints : List Constraint} :
    readConstraints text size rest done = .ok constraints ↔
      ∃ strays later, Clauses strays rest later ∧ constraints = done.reverse ++ later := by
  constructor
  · intro read
    fun_induction readConstraints text size rest done with
    | case1 rest done empty =>
      cases read
      rw [List.isEmpty_iff] at empty
      subst empty
      exact ⟨0, [], .nil, (List.append_nil _).symm⟩
    | case2 => cases read
    | case3 => cases read
    | case4 _ _ _ _ _ _ path found _ ih => exact clauses_taken found path rfl (ih read)
    | case5 => cases read
    | case6 _ _ _ _ _ _ path _ found literal made _ ih =>
      exact clauses_taken found path (map_eq_ok_iff.mpr ⟨literal, made, rfl⟩) (ih read)
  · rintro ⟨strays, later, clauses, rfl⟩
    induction clauses generalizing done with
    | nil =>
      rw [readConstraints, List.append_nil]
      rfl
    | cons clause _ ih =>
      obtain ⟨written, value, found, path, read⟩ := (clause_iff text).mpr ⟨_, clause⟩
      rw [readConstraints_taken found path read, ih, List.reverse_cons, List.append_assoc,
        List.singleton_append]

theorem Clauses.head {strays : Nat} {text : List Char} {constraints : List Constraint}
    (clauses : Clauses strays text constraints) :
    ∀ c, text.head? = some c → isIdentifierChar c = false := by
  intro c first
  cases clauses with
  | nil => cases first
  | cons clause _ =>
    cases clause
    cases first
    decide

theorem kind_taken {kind text : List Char} (identifier : isIdentifier kind = true)
    (stops : ∀ c, text.head? = some c → isIdentifierChar c = false) :
    (kind ++ text).head?.any isIdentifierStart = true ∧
      (kind ++ text).takeWhile isIdentifierChar = kind ∧
      (kind ++ text).dropWhile isIdentifierChar = text := by
  obtain ⟨first, rest, split, start, chars⟩ := identifier_chars identifier
  refine ⟨?_, run_ends text chars stops⟩
  rw [split]
  exact start

theorem read_iff {text : String} {selector : Selector} :
    Selector.read text = .ok selector ↔ ∃ strays, Spelled strays (strip text).toList selector := by
  rw [Selector.read]
  constructor
  · intro read
    simp only at read
    split at read
    next start =>
      obtain ⟨constraints, made, rfl⟩ := map_eq_ok_iff.mp read
      obtain ⟨strays, later, clauses, rfl⟩ := readConstraints_iff.mp made
      have identifier := identifier_taken start
      rw [String.toList_ofList] at identifier
      have spelled := Spelled.mk identifier clauses
      rw [List.takeWhile_append_dropWhile] at spelled
      exact ⟨strays, spelled⟩
    next => cases read
  · rintro ⟨strays, spelled⟩
    generalize (strip text).toList = stripped at spelled ⊢
    obtain ⟨identifier, clauses⟩ := spelled
    obtain ⟨start, taken, left⟩ := kind_taken identifier clauses.head
    simp only [start, taken, left, if_true, readConstraints_iff.mpr ⟨strays, _, clauses, rfl⟩]
    rfl

theorem Value.head {strays : Nat} {rest after : List Char} {expected : Option Literal}
    (value : Value strays rest expected after) :
    ∀ c, rest.head? = some c → isBlank c = false ∧ isPathChar c = false := by
  intro c first
  cases value <;> cases first <;> decide

/-! A text spells a selector in one way, so that the number of strays is a matter of the text. -/

theorem Value.unique {here there : Nat} {rest one other : List Char}
    {expected expected' : Option Literal} (first : Value here rest expected one)
    (second : Value there rest expected' other) : here = there ∧ one = other := by
  cases first with
  | absent =>
    cases second
    exact ⟨rfl, rfl⟩
  | @equal _ gap raw close _ literal space closing reads =>
    generalize same : gap ++ (raw ++ (close ++ ']' :: one)) = text at second
    cases second with
    | @equal _ gap' raw' close' _ literal' space' closing' reads' =>
      replace same := congrArg (List.dropWhile isBlank) same
      rw [dropWhile_reads space reads, dropWhile_reads space' reads'] at same
      have taken := reads.taken closing
      rw [same, reads'.taken closing'] at taken
      cases taken
      rw [← List.append_cancel_left same] at reads'
      exact ⟨reads.unique closing reads', rfl⟩

theorem Clause.unique {here there : Nat} {text one other : List Char}
    {constraint constraint' : Constraint} (first : Clause here text constraint one)
    (second : Clause there text constraint' other) : here = there ∧ one = other := by
  cases first with
  | @mk front written back rest _ _ _ opening dotted space value =>
    generalize same : front ++ (written ++ (back ++ rest)) = inner at second
    cases second with
    | mk opening' dotted' space' value' =>
      obtain ⟨filled, chars⟩ := dotted.chars
      obtain ⟨filled', chars'⟩ := dotted'.chars
      have left := (parts_found opening filled chars space value.head).2
      rw [same, (parts_found opening' filled' chars' space' value'.head).2] at left
      subst left
      exact value.unique value'

theorem Clauses.unique {here there : Nat} {text : List Char} {one other : List Constraint}
    (first : Clauses here text one) (second : Clauses there text other) : here = there := by
  induction first generalizing there other with
  | nil =>
    cases second with
    | nil => rfl
    | cons clause => cases clause
  | cons clause _ ih =>
    cases second with
    | nil => cases clause
    | cons clause' later =>
      obtain ⟨rfl, rfl⟩ := clause.unique clause'
      rw [ih later]

theorem Spelled.unique {here there : Nat} {text : List Char} {one other : Selector}
    (first : Spelled here text one) (second : Spelled there text other) : here = there := by
  cases first with
  | @mk kind rest _ identifier clauses =>
    generalize same : kind ++ rest = text at second
    cases second with
    | mk identifier' clauses' =>
      have left := (kind_taken identifier clauses.head).2.2
      rw [same, (kind_taken identifier' clauses'.head).2.2] at left
      subst left
      exact clauses.unique clauses'

/-- A text is read just if it spells the selector. It does so by the grammar, without strays, just
if it is read and cannot be spelled with a value that strays. -/
theorem selector_read_as_spelled (text : String) (selector : Selector) :
    (Selector.read text = .ok selector ↔ ∃ strays, Spelled strays (strip text).toList selector) ∧
      (Spelled 0 (strip text).toList selector ↔
        Selector.read text = .ok selector ∧
          ∀ strays, ¬ Spelled (strays + 1) (strip text).toList selector) := by
  refine ⟨read_iff, ?_, ?_⟩
  · intro spelled
    refine ⟨read_iff.mpr ⟨0, spelled⟩, ?_⟩
    intro strays straying
    cases spelled.unique straying
  · rintro ⟨read, strict⟩
    obtain ⟨strays, spelled⟩ := read_iff.mp read
    cases strays with
    | zero => exact spelled
    | succ strays => exact absurd spelled (strict strays)

theorem spaced_call_read :
    let text := " f[ a.0 = '\\'x' ][n=-1_0][k]\n"
    let selector : Selector := ⟨"f", [⟨[.name "a", .position 0], some (.text "'x")⟩,
      ⟨[.name "n"], some (.int (-10))⟩, ⟨[.name "k"], none⟩]⟩
    Spelled 0 (strip text).toList selector ∧ Selector.read text = .ok selector := by
  intro text selector
  have one : decimalValue? '1' = some 1 := by decide +kernel
  have zero : decimalValue? '0' = some 0 := by decide +kernel
  have tight : Blanks [] := List.forall_mem_nil _
  have space : Blanks [' '] := List.forall_mem_singleton.mpr (by decide)
  have quoted : Quoted ['\'', '\\', '\'', 'x', '\''] ['\'', 'x'] :=
    .mk (.inr rfl) (.escaped (by decide) (.plain (by decide) (by decide) .nil))
  have whole : Whole ['-', '1', '_', '0'] true [1, 0] :=
    ⟨['1', '_', '0'], .minus, .joined one (.next zero .none) (by simp), by simp⟩
  have first : Step ['a'] (.name "a") := .name (by decide)
  have index : Step ['0'] (.position 0) := .position (by simp) (.cons zero .nil) (by decide)
  have second : Step ['n'] (.name "n") := .name (by decide)
  have third : Step ['k'] (.name "k") := .name (by decide)
  have kind : isIdentifier ['f'] = true := by decide
  have stripped : (strip text).toList = "f[ a.0 = '\\'x' ][n=-1_0][k]".toList := by decide +kernel
  have spelled : Spelled 0 (strip text).toList selector := by
    rw [stripped]
    exact .mk kind (.cons
      (.mk space (.next first (.last index)) space (.equal space space (.denotes (.text quoted))))
      (.cons (.mk tight (.last second) tight
          (.equal tight tight (.denotes (.int whole (by decide)))))
        (.cons (.mk tight (.last third) tight .absent) .nil)))
  exact ⟨spelled, ((selector_read_as_spelled text selector).2.mp spelled).1⟩

/-- A quote that is never closed is no literal, yet the constraint is read. -/
theorem open_quote_read :
    Selector.read "k[a=\"x]" = .ok ⟨"k", [⟨[.name "a"], some (.text "")⟩]⟩ ∧
      ∀ selector, ¬ Spelled 0 (strip "k[a=\"x]").toList selector := by
  have incomplete : quotedValue? (['"', 'x'] ++ [']']) = none := by decide +kernel
  have strays : Strays ['"', 'x'] [']'] (.text "") := by
    refine .unquoted (.inl rfl) ?_ ?_
    · exact List.forall_mem_cons.mpr ⟨by decide, List.forall_mem_singleton.mpr (by decide)⟩
    intro written value gap after quoted blanks split
    rw [quotedValue?_iff.mpr ⟨value, gap, quoted, blanks, split⟩] at incomplete
    cases incomplete
  have tight : Blanks [] := List.forall_mem_nil _
  have step : Step ['a'] (.name "a") := .name (by decide)
  have kind : isIdentifier ['k'] = true := by decide
  have stripped : (strip "k[a=\"x]").toList = "k[a=\"x]".toList := by decide +kernel
  have spelled : Spelled 1 (strip "k[a=\"x]").toList ⟨"k", [⟨[.name "a"], some (.text "")⟩]⟩ := by
    rw [stripped]
    exact .mk kind (.cons
      (.mk tight (.last step) tight (.equal tight tight (.strays strays))) .nil)
  refine ⟨read_iff.mpr ⟨1, spelled⟩, ?_⟩
  intro selector strict
  cases strict.unique spelled

end AngularLint.Proofs.SelectorGrammar
