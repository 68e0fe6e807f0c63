import AngularLint.Proofs.LiteralText

/-! The text of a selector is read as the same selector: the kind ends at the first bracket, and
each constraint is taken whole before the reader goes on with the rest. -/

namespace AngularLint.Proofs.SelectorText
open AngularLint.Text Numerals Outcomes PathText LiteralText

/-- A constraint whose text tells everything about it. -/
structure Tellable (constraint : Constraint) : Prop where
  positions : ∀ segment ∈ constraint.path, Short segment
  literal : ∀ literal ∈ constraint.expected, Printable literal

instance (constraint : Constraint) : Decidable (Tellable constraint) :=
  decidable_of_iff ((∀ segment ∈ constraint.path, Short segment) ∧
      ∀ literal ∈ constraint.expected, Printable literal)
    ⟨fun both => ⟨both.1, both.2⟩, fun tellable => ⟨tellable.positions, tellable.literal⟩⟩

def valueText : Option Literal → List Char
  | none => []
  | some literal => '=' :: literal.shown.toList

theorem constraint_shown (constraint : Constraint) :
    constraint.shown.toList =
      '[' :: (constraint.path.text.toList ++ (valueText constraint.expected ++ [']'])) := by
  obtain ⟨path, expected⟩ := constraint
  cases expected <;> simp [Constraint.shown, valueText, toString]

theorem takeConstraint?_shown {constraint : Constraint} (proper : Proper constraint.path)
    (tellable : Tellable constraint) (after : List Char) :
    takeConstraint? (constraint.shown.toList ++ after) =
      some (constraint.path.text.toList, constraint.expected.map (·.shown.toList), after) := by
  obtain ⟨nonempty, chars⟩ := pathText_chars proper
  have inside : ∀ c ∈ constraint.path.text.toList, (c != ']' && c != '=' && !isBlank c) = true := by
    intro c member
    obtain ⟨solid, unclosed, unequal⟩ := chars c member
    simp [solid, unclosed, unequal]
  have whole (rest : List Char) : (constraint.path.text.toList ++ rest).dropWhile isBlank =
      constraint.path.text.toList ++ rest :=
    dropWhile_append_of_head rest nonempty fun c first => (chars c (List.mem_of_head? first)).1
  have empty : constraint.path.text.toList.isEmpty = false := by
    rwa [List.isEmpty_eq_false_iff]
  have close : isBlank ']' = false := by decide
  have equal : isBlank '=' = false := by decide
  rw [constraint_shown, List.cons_append, List.append_assoc, List.append_assoc, takeConstraint?]
  simp only [whole]
  cases expected : constraint.expected with
  | none =>
    obtain ⟨taken, left⟩ := run_ends (']' :: after) inside (by simp)
    simp [valueText, taken, left, empty, close]
  | some literal =>
    have legible := printable_legible (tellable.literal literal expected)
    have value := dropWhile_append_of_head (']' :: after) legible.nonempty legible.solid
    obtain ⟨taken, left⟩ :=
      run_ends ('=' :: (literal.shown.toList ++ ']' :: after)) inside (by simp)
    simp [valueText, taken, left, empty, equal, value, legible.taken]

/-- One turn of the reader: the path is read, then the literal, then the rest. -/
theorem readConstraints_turn {rest written after : List Char} {value : Option (List Char)}
    {text : String} {size : Nat} {done : List Constraint}
    (found : takeConstraint? rest = some (written, value, after)) :
    readConstraints text size rest done =
      (readPath (String.ofList written) text).bind fun path =>
        (value.mapM (readLiteral · text)).bind fun expected =>
          readConstraints text size after (⟨path, expected⟩ :: done) := by
  have filled : rest.isEmpty = false := by
    cases rest with
    | nil => cases found
    | cons c others => rfl
  rw [readConstraints, filled]
  simp only [Bool.false_eq_true, if_false]
  split
  next none =>
    rw [found] at none
    cases none
  next same =>
    rw [found] at same
    cases same
    cases readPath (String.ofList written) text with
    | error fault => rfl
    | ok path =>
      cases value with
      | none => rfl
      | some raw =>
        rw [Option.mapM_some]
        dsimp only
        cases readLiteral raw text <;> rfl

theorem readConstraints_taken {rest written after : List Char} {value : Option (List Char)}
    {text : String} {size : Nat} {constraint : Constraint} {done : List Constraint}
    (found : takeConstraint? rest = some (written, value, after))
    (path : readPath (String.ofList written) text = .ok constraint.path)
    (literal : value.mapM (readLiteral · text) = .ok constraint.expected) :
    readConstraints text size rest done = readConstraints text size after (constraint :: done) := by
  rw [readConstraints_turn found, path, literal]
  rfl

theorem readConstraints_shown {constraints : List Constraint}
    (proper : ∀ constraint ∈ constraints, Proper constraint.path)
    (tellable : ∀ constraint ∈ constraints, Tellable constraint)
    (text : String) (size : Nat) (done : List Constraint) :
    readConstraints text size (constraints.flatMap (·.shown.toList)) done =
      .ok (done.reverse ++ constraints) := by
  -- The reader holds what it has read in reverse, and goes on behind the bracket of a constraint.
  induction constraints generalizing done with
  | nil =>
    rw [readConstraints, List.append_nil]
    rfl
  | cons constraint rest ih =>
    obtain ⟨sound, sounds⟩ := List.forall_mem_cons.mp proper
    obtain ⟨told, tolds⟩ := List.forall_mem_cons.mp tellable
    have path := readPath_text sound told.positions text
    have literal : (constraint.expected.map (·.shown.toList)).mapM (readLiteral · text) =
        .ok constraint.expected := by
      cases expected : constraint.expected with
      | none => rfl
      | some literal =>
        have read := (printable_legible (told.literal literal expected)).read text
        simp [read]
    rw [← String.ofList_toList (s := constraint.path.text)] at path
    rw [List.flatMap_cons, readConstraints_taken (takeConstraint?_shown sound told _) path literal,
      ih sounds tolds, List.reverse_cons, List.append_assoc, List.singleton_append]

theorem ofPath_proper {path : String} {expected : Option Literal} {constraint : Constraint}
    (made : Constraint.ofPath path expected = .ok constraint) : Proper constraint.path := by
  obtain ⟨segments, read, rfl⟩ := map_eq_ok_iff.mp made
  exact readPath_proper read

theorem readConstraints_proper {text : String} {size : Nat} {rest : List Char}
    {done constraints : List Constraint}
    (read : readConstraints text size rest done = .ok constraints)
    (before : ∀ constraint ∈ done, Proper constraint.path) :
    ∀ constraint ∈ constraints, Proper constraint.path := by
  fun_induction readConstraints text size rest done with
  | case1 =>
    cases read
    simpa using before
  | case2 => cases read
  | case3 => cases read
  | case4 _ _ _ _ _ _ path _ _ ih =>
    exact ih read (List.forall_mem_cons.mpr ⟨readPath_proper path, before⟩)
  | case5 => cases read
  | case6 _ _ _ _ _ _ path _ _ _ _ _ ih =>
    exact ih read (List.forall_mem_cons.mpr ⟨readPath_proper path, before⟩)

/-- The ways to a selector: from its text, or from a kind and constraints. -/
inductive Built (selector : Selector) : Prop where
  | read (text : String) (read : Selector.read text = .ok selector)
  | made (kind : String) (parts : List (String × Option Literal)) (constraints : List Constraint)
      (each : parts.mapM (fun part => Constraint.ofPath part.1 part.2) = .ok constraints)
      (made : Selector.ofParts kind constraints = .ok selector)

theorem identifier_taken {text : List Char} (start : text.head?.any isIdentifierStart = true) :
    isIdentifier (String.ofList (text.takeWhile isIdentifierChar)).toList = true := by
  cases text with
  | nil => cases start
  | cons first rest =>
    have char : isIdentifierChar first = true := identifierChar_iff.mpr (.inl start)
    rw [String.toList_ofList, List.takeWhile_cons_of_pos char, isIdentifier, Bool.and_eq_true]
    exact ⟨start, List.all_takeWhile⟩

theorem built_proper {selector : Selector} (built : Built selector) :
    isIdentifier selector.kind.toList = true ∧
      ∀ constraint ∈ selector.constraints, Proper constraint.path := by
  cases built with
  | read text read =>
    rw [Selector.read] at read
    split at read
    next start =>
      obtain ⟨constraints, constrained, rfl⟩ := map_eq_ok_iff.mp read
      exact ⟨identifier_taken start, readConstraints_proper constrained (by simp)⟩
    next => cases read
  | made kind parts constraints each made =>
    rw [Selector.ofParts] at made
    split at made
    next identifier =>
      cases made
      refine ⟨identifier, ?_⟩
      intro constraint member
      obtain ⟨part, _, ofPath⟩ := mem_of_mapM_eq_ok each member
      exact ofPath_proper ofPath
    next => cases made

theorem selector_shown (selector : Selector) :
    selector.shown.toList =
      selector.kind.toList ++ selector.constraints.flatMap (·.shown.toList) := by
  rw [Selector.shown, String.toList_join, List.flatMap_cons, List.flatMap_map]

/-- The text of a selector begins and ends without blanks. -/
theorem shown_ends {selector : Selector} (identifier : isIdentifier selector.kind.toList = true) :
    (∀ c, selector.shown.toList.head? = some c → isBlank c = false) ∧
      ∀ c, selector.shown.toList.getLast? = some c → isBlank c = false := by
  obtain ⟨first, rest, kind, _, chars⟩ := identifier_chars identifier
  have solid (c : Char) (member : c ∈ selector.kind.toList) : isBlank c = false :=
    identifierChar_not_blank (chars c member)
  rw [selector_shown]
  constructor
  · intro c head
    rw [kind] at head solid
    cases head
    exact solid first List.mem_cons_self
  · intro c last
    rcases List.eq_nil_or_concat selector.constraints with none | ⟨before, constraint, all⟩
    · rw [none, List.flatMap_nil, List.append_nil] at last
      exact solid c (List.mem_of_getLast? last)
    · simp only [all, List.concat_eq_append, List.flatMap_append, List.flatMap_singleton,
        constraint_shown, ← List.append_assoc, ← List.cons_append, List.getLast?_concat] at last
      cases last
      decide

/-- A selector that was read or made is read back from its text: the same kind, the same paths and
the same literals. -/
theorem selector_reads_back (selector : Selector) (built : Built selector)
    (tellable : ∀ constraint ∈ selector.constraints, Tellable constraint) :
    Selector.read selector.shown = .ok selector := by
  obtain ⟨identifier, proper⟩ := built_proper built
  obtain ⟨first, rest, kind, start, chars⟩ := identifier_chars identifier
  obtain ⟨head, last⟩ := shown_ends identifier
  -- The kind cannot run on into the constraints, since they begin with a bracket.
  have bracket : ∀ c, (selector.constraints.flatMap (·.shown.toList)).head? = some c →
      isIdentifierChar c = false := by
    cases selector.constraints with
    | nil => simp
    | cons constraint others =>
      intro c first
      rw [List.flatMap_cons, constraint_shown] at first
      cases first
      decide
  obtain ⟨taken, left⟩ := run_ends _ chars bracket
  have opened : (selector.kind.toList ++
      selector.constraints.flatMap (·.shown.toList)).head?.any isIdentifierStart = true := by
    rw [kind]
    exact start
  simp only [Selector.read, strip_of_ends head last, selector_shown, opened, if_true, taken, left,
    readConstraints_shown proper tellable, String.ofList_toList]
  rfl

theorem quoted_reads_back :
    let selector : Selector := ⟨"call", [
      ⟨[.name "args", .position 0], some (.text "\"a\\]\n['=\" ")⟩,
      ⟨[.name "args", .position 1], none⟩,
      ⟨[.name "depth"], some (.int (-12))⟩,
      ⟨[.name "body", .name "async"], some (.flag true)⟩,
      ⟨[.name "body"], some .null⟩]⟩
    Built selector ∧ (∀ constraint ∈ selector.constraints, Tellable constraint) ∧
      Selector.read selector.shown = .ok selector := by
  intro selector
  have each : [("args.0", some (.text "\"a\\]\n['=\" ")), ("args.01", none),
      ("depth", some (.int (-12))), ("body.async", some (.flag true)),
      ("body", some .null)].mapM (fun part => Constraint.ofPath part.1 part.2) =
        .ok selector.constraints := rfl
  have built : Built selector := .made "call" _ _ each rfl
  have tellable : ∀ constraint ∈ selector.constraints, Tellable constraint := by decide +kernel
  exact ⟨built, tellable, selector_reads_back selector built tellable⟩

end AngularLint.Proofs.SelectorText
