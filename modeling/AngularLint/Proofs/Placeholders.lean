import AngularLint.Message
import AngularLint.Proofs.Numerals

/-! How templates are read. A template falls into placeholders and literal text without placeholders
in one way only, whatever the values are. They are put in the places of the placeholders and not
looked at again, so nothing in a value, or at the seams of values and literal text, is taken for a
placeholder. -/

namespace AngularLint.Proofs.Placeholders
open AngularLint.Text Numerals

/-- A placeholder as it may be written, and its word. -/
inductive Spells : List Char → String → Prop where
  | intro {before word after : List Char} (leading : ∀ c ∈ before, isBlank c = true)
      (letters : ∀ c ∈ word, isWord c = true) (some : word ≠ [])
      (trailing : ∀ c ∈ after, isBlank c = true) :
      Spells ('\x7b' :: '\x7b' :: (before ++ (word ++ (after ++ ['\x7d', '\x7d']))))
        (String.ofList word)

/-- No placeholder stands in the text. -/
def Plain (text : List Char) : Prop :=
  ∀ written key, Spells written key → ¬ written <:+: text

/-- A placeholder and the literal text up to the next one. -/
structure Slot where
  written : List Char
  key : String
  behind : List Char

/-- A template taken apart. -/
structure Reading where
  front : List Char
  slots : List Slot

namespace Reading

def written (reading : Reading) : List Char :=
  reading.front ++ reading.slots.flatMap fun slot => slot.written ++ slot.behind

/-- The literal text, with a value for each placeholder that has one. -/
def filled (reading : Reading) (data : OrderedMap String String) : List Char :=
  reading.front ++ reading.slots.flatMap fun slot =>
    ((data.get? slot.key).map String.toList).getD slot.written ++ slot.behind

def pieces (reading : Reading) : List Piece :=
  .literal reading.front :: reading.slots.flatMap fun slot =>
    [.placeholder slot.written slot.key, .literal slot.behind]

end Reading

/-- The template, and nothing else, is taken apart, into placeholders and text without any. -/
structure Reads (template : List Char) (reading : Reading) : Prop where
  whole : reading.written = template
  spelled : ∀ slot ∈ reading.slots, Spells slot.written slot.key
  front : Plain reading.front
  behind : ∀ slot ∈ reading.slots, Plain slot.behind

section Characters

theorem ranges_apart : ∀ word ∈ wordRanges, ∀ blank ∈ blankRanges,
    word.2 < blank.1 ∨ blank.2 < word.1 := by
  decide +kernel

theorem word_not_blank {c : Char} (letter : isWord c = true) : isBlank c = false := by
  rw [← Bool.not_eq_true]
  intro blank
  simp only [isWord, isBlank, inRanges, List.any_eq_true, Bool.and_eq_true,
    decide_eq_true_eq] at letter blank
  obtain ⟨wordRange, listed, low, high⟩ := letter
  obtain ⟨blankRange, alsoListed, least, most⟩ := blank
  have apart := ranges_apart wordRange listed blankRange alsoListed
  omega

theorem opening_brace : isBlank '\x7b' = false ∧ isWord '\x7b' = false := by
  decide +kernel

theorem closing_brace : isBlank '\x7d' = false ∧ isWord '\x7d' = false := by
  decide +kernel

end Characters

section Token

variable {text written after : List Char} {key : String}

theorem Spells.inside (spells : Spells written key) :
    ∃ body, written = '\x7b' :: '\x7b' :: body ∧ body ≠ [] ∧ '\x7b' ∉ body := by
  obtain ⟨leading, letters, some, trailing⟩ := spells
  refine ⟨_, rfl, by simp, ?_⟩
  simp only [List.mem_append, not_or]
  refine ⟨?_, ?_, ?_, by decide⟩
  · intro member
    exact absurd (leading _ member) (by simp [opening_brace.1])
  · intro member
    exact absurd (letters _ member) (by simp [opening_brace.2])
  · intro member
    exact absurd (trailing _ member) (by simp [opening_brace.1])

/-- What follows the word of a placeholder is no part of the word. -/
theorem word_ends {blanks : List Char} (trailing : ∀ c ∈ blanks, isBlank c = true)
    (after : List Char) :
    ∀ c, (blanks ++ '\x7d' :: after).head? = some c → isWord c = false := by
  intro c head
  cases blanks with
  | nil =>
    cases head
    exact closing_brace.2
  | cons blank rest =>
    cases head
    rw [← Bool.not_eq_true]
    intro letter
    exact absurd (trailing _ List.mem_cons_self) (by simp [word_not_blank letter])

theorem take_before (first last : List Char) :
    (first ++ last).take ((first ++ last).length - last.length) = first := by
  rw [List.length_append, Nat.add_sub_cancel, List.take_left]

theorem takePlaceholder?_spelled (spells : Spells written key) (after : List Char) :
    takePlaceholder? (written ++ after) = some (written, key, after) := by
  cases spells with
  | @intro before word blanks leading letters some trailing =>
    have blankless (c : Char)
        (head : (word ++ (blanks ++ '\x7d' :: '\x7d' :: after)).head? = .some c) :
        isBlank c = false := by
      obtain ⟨first, rest, rfl⟩ := List.exists_cons_of_ne_nil some
      cases head
      exact word_not_blank (letters _ List.mem_cons_self)
    have opened := (run_ends _ leading blankless).2
    have named := run_ends _ letters (word_ends trailing ('\x7d' :: after))
    have closed := (run_ends ('\x7d' :: '\x7d' :: after) trailing (by
      intro c head
      cases head
      exact closing_brace.1)).2
    have present : word.isEmpty = false := by simpa using some
    have cut := take_before
      ('\x7b' :: '\x7b' :: (before ++ (word ++ (blanks ++ ['\x7d', '\x7d'])))) after
    simp only [List.cons_append, List.append_assoc, List.nil_append] at cut ⊢
    simp only [takePlaceholder?, opened, named, closed, present, cut]
    rfl

theorem takePlaceholder?_sound (found : takePlaceholder? text = some (written, key, after)) :
    Spells written key ∧ text = written ++ after := by
  unfold takePlaceholder? at found
  split at found
  next rest =>
    dsimp only at found
    split at found
    next => cases found
    next some =>
      split at found
      next behind closed =>
        simp only [Option.some.injEq, Prod.mk.injEq] at found
        obtain ⟨rfl, rfl, rfl⟩ := found
        let inside := rest.dropWhile isBlank
        let tail := inside.dropWhile isWord
        have whole : '\x7b' :: '\x7b' :: rest =
            '\x7b' :: '\x7b' :: (rest.takeWhile isBlank ++ (inside.takeWhile isWord ++
              (tail.takeWhile isBlank ++ ['\x7d', '\x7d']))) ++ behind := by
          simp only [List.cons_append, List.append_assoc, List.nil_append, ← closed, tail, inside,
            List.takeWhile_append_dropWhile]
        have cut := take_before ('\x7b' :: '\x7b' :: (rest.takeWhile isBlank ++
          (inside.takeWhile isWord ++ (tail.takeWhile isBlank ++ ['\x7d', '\x7d'])))) behind
        rw [← whole] at cut
        rw [cut]
        refine ⟨.intro ?_ ?_ (by simpa using some) ?_, whole⟩
        all_goals exact fun c member => List.mem_takeWhile_imp member
      next => cases found
  next => cases found

end Token

/-- No placeholder begins in the text that has been passed, though it may end behind it. -/
def Quiet (passed rest : List Char) : Prop :=
  ∀ later, later <:+ passed → later ≠ [] → takePlaceholder? (later ++ rest) = none

section Quiet

variable {passed rest : List Char}

theorem Quiet.nil (rest : List Char) : Quiet [] rest := by
  intro later ending some
  exact absurd (List.suffix_nil.mp ending) some

theorem Quiet.snoc {c : Char} (quiet : Quiet passed (c :: rest))
    (none : takePlaceholder? (c :: rest) = none) : Quiet (passed ++ [c]) rest := by
  intro later ending some
  rcases List.suffix_concat_iff.mp ending with empty | ⟨before, rfl, inner⟩
  · exact absurd empty some
  · rw [List.append_assoc, List.singleton_append]
    by_cases here : before = []
    · rw [here]
      exact none
    · exact quiet before inner here

theorem Quiet.plain (quiet : Quiet passed rest) : Plain passed := by
  rintro written key spells ⟨before, after, rfl⟩
  obtain ⟨body, same, _⟩ := spells.inside
  have silent := quiet (written ++ after) ⟨before, by rw [List.append_assoc]⟩ (by simp [same])
  rw [List.append_assoc, takePlaceholder?_spelled spells] at silent
  cases silent

/-- A placeholder does not begin inside another one. -/
theorem Spells.apart {later middle after next more : List Char} {key nextKey : String}
    (spells : Spells (later ++ middle) key) (begun : later ≠ []) (reaching : middle ≠ [])
    (nextSpells : Spells next nextKey) : middle ++ after ≠ next ++ more := by
  intro same
  obtain ⟨body, written, some, braceless⟩ := spells.inside
  obtain ⟨nextBody, nextWritten, _, _⟩ := nextSpells.inside
  obtain ⟨first, later, rfl⟩ := List.exists_cons_of_ne_nil begun
  obtain ⟨c, middle, rfl⟩ := List.exists_cons_of_ne_nil reaching
  rw [nextWritten] at same
  obtain ⟨rfl, following⟩ := List.cons.inj same
  obtain ⟨_, written⟩ := List.cons.inj written
  cases later with
  | nil =>
    obtain ⟨_, rfl⟩ := List.cons.inj written
    obtain ⟨second, middle, rfl⟩ := List.exists_cons_of_ne_nil some
    obtain ⟨rfl, _⟩ := List.cons.inj following
    exact braceless List.mem_cons_self
  | cons second later =>
    obtain ⟨_, rfl⟩ := List.cons.inj written
    exact braceless (List.mem_append_right _ List.mem_cons_self)

/-- So none that begins in plain text reaches into the next one. -/
theorem quiet_of_plain (plain : Plain passed)
    (next : rest = [] ∨ ∃ written key after, Spells written key ∧ rest = written ++ after) :
    Quiet passed rest := by
  intro later ending some
  cases found : takePlaceholder? (later ++ rest) with
  | none => rfl
  | some read =>
    obtain ⟨written, key, after⟩ := read
    obtain ⟨spells, same⟩ := takePlaceholder?_sound found
    rcases List.append_eq_append_iff.mp same with ⟨middle, rfl, split⟩ | ⟨middle, rfl, _⟩
    · by_cases ends : middle = []
      · rw [ends, List.append_nil] at spells
        exact absurd ending.isInfix (plain later key spells)
      · rcases next with none | ⟨next, nextKey, more, nextSpells, begins⟩
        · rw [none] at split
          exact absurd (List.append_eq_nil_iff.mp split.symm).1 ends
        · exact absurd (split.symm.trans begins) (spells.apart some ends nextSpells)
    · have inside : written <:+: written ++ middle := (List.prefix_append _ _).isInfix
      exact absurd (inside.trans ending.isInfix) (plain written key spells)

end Quiet

section Pieces

variable {pending text written after : List Char} {key : String}

theorem piecesFrom_found (found : takePlaceholder? text = some (written, key, after)) :
    piecesFrom pending text =
      .literal pending.reverse :: .placeholder written key :: piecesFrom [] after := by
  rw [piecesFrom]
  split
  next same =>
    rw [found] at same
    cases same
    rfl
  next none =>
    rw [found] at none
    cases none

theorem piecesFrom_skip {c : Char} {rest : List Char}
    (none : takePlaceholder? (c :: rest) = none) :
    piecesFrom pending (c :: rest) = piecesFrom (c :: pending) rest := by
  rw [piecesFrom]
  split
  next found =>
    rw [none] at found
    cases found
  next => rfl

theorem piecesFrom_end (pending : List Char) :
    piecesFrom pending [] = [.literal pending.reverse] := by
  rw [piecesFrom]
  split
  next found => cases found
  next => rfl

/-- Reading on from a point where no placeholder has begun yet. -/
theorem piecesFrom_reads (quiet : Quiet pending.reverse text) :
    ∃ reading : Reading, piecesFrom pending text = reading.pieces ∧
      Reads (pending.reverse ++ text) reading := by
  fun_induction piecesFrom pending text with
  | case1 pending text written key after found ih =>
    obtain ⟨reading, same, reads⟩ := ih (Quiet.nil after)
    obtain ⟨spells, rfl⟩ := takePlaceholder?_sound found
    refine ⟨⟨pending.reverse, ⟨written, key, reading.front⟩ :: reading.slots⟩, ?_, ?_, ?_, ?_, ?_⟩
    · rw [same]
      rfl
    · have whole : reading.written = after := reads.whole
      simp [← whole, Reading.written]
    · exact List.forall_mem_cons.mpr ⟨spells, reads.spelled⟩
    · exact quiet.plain
    · exact List.forall_mem_cons.mpr ⟨reads.front, reads.behind⟩
  | case2 pending none =>
    refine ⟨⟨pending.reverse, []⟩, rfl, rfl, ?_, quiet.plain, ?_⟩
    all_goals exact fun slot member => by cases member
  | case3 pending c rest none ih =>
    have further := quiet.snoc none
    rw [← List.reverse_cons] at further
    obtain ⟨reading, same, reads⟩ := ih further
    refine ⟨reading, same, ?_⟩
    rw [List.reverse_cons, List.append_assoc] at reads
    exact reads

theorem piecesFrom_quiet {front rest : List Char} (quiet : Quiet front rest) (pending : List Char) :
    piecesFrom pending (front ++ rest) = piecesFrom (front.reverse ++ pending) rest := by
  induction front generalizing pending with
  | nil => rfl
  | cons c front ih =>
    have none := quiet (c :: front) (List.suffix_refl _) (List.cons_ne_nil _ _)
    have further : Quiet front rest :=
      fun later ending => quiet later (ending.trans (List.suffix_cons c front))
    rw [List.cons_append] at none ⊢
    rw [piecesFrom_skip none, ih further, List.reverse_cons, List.append_assoc,
      List.singleton_append]

/-- However a template can be taken apart, this is how it is read. -/
theorem Reads.pieces {template : List Char} {reading : Reading} (reads : Reads template reading) :
    piecesFrom [] template = reading.pieces := by
  obtain ⟨front, slots⟩ := reading
  induction slots generalizing template front with
  | nil =>
    have quiet := quiet_of_plain reads.front (.inl rfl)
    rw [← reads.whole, Reading.written, List.flatMap_nil, piecesFrom_quiet quiet, piecesFrom_end,
      List.append_nil, List.reverse_reverse]
    rfl
  | cons slot slots ih =>
    obtain ⟨spells, spelled⟩ := List.forall_mem_cons.mp reads.spelled
    obtain ⟨plain, behind⟩ := List.forall_mem_cons.mp reads.behind
    have later : Reads (Reading.written ⟨slot.behind, slots⟩) ⟨slot.behind, slots⟩ :=
      ⟨rfl, spelled, plain, behind⟩
    have whole : template = front ++ (slot.written ++ Reading.written ⟨slot.behind, slots⟩) := by
      rw [← reads.whole]
      simp [Reading.written]
    have quiet : Quiet front (slot.written ++ Reading.written ⟨slot.behind, slots⟩) :=
      quiet_of_plain reads.front (.inr ⟨slot.written, slot.key, _, spells, rfl⟩)
    rw [whole, piecesFrom_quiet quiet, piecesFrom_found (takePlaceholder?_spelled spells _),
      ih slot.behind later, List.append_nil, List.reverse_reverse]
    rfl

theorem pieces_injective {first second : Reading} (same : first.pieces = second.pieces) :
    first = second := by
  obtain ⟨front, slots⟩ := first
  obtain ⟨otherFront, others⟩ := second
  induction slots generalizing front otherFront others with
  | nil =>
    cases others with
    | nil => simpa [Reading.pieces] using same
    | cons other others => simp [Reading.pieces] at same
  | cons slot slots ih =>
    obtain ⟨written, key, behind⟩ := slot
    cases others with
    | nil => simp [Reading.pieces] at same
    | cons other others =>
      obtain ⟨otherWritten, otherKey, otherBehind⟩ := other
      obtain ⟨fronts, later⟩ := List.cons.inj same
      obtain ⟨placeholders, rest⟩ := List.cons.inj later
      cases ih behind otherBehind others rest
      cases fronts
      cases placeholders
      rfl

theorem fill_pieces (reading : Reading) (data : OrderedMap String String) :
    reading.pieces.flatMap (Piece.fill data) = reading.filled data := by
  have each (slot : Slot) : Piece.fill data (.placeholder slot.written slot.key) =
      ((data.get? slot.key).map String.toList).getD slot.written := by
    rw [Piece.fill]
    cases data.get? slot.key <;> rfl
  have literal (text : List Char) : Piece.fill data (.literal text) = text := rfl
  simp only [Reading.pieces, Reading.filled, List.flatMap_cons, List.flatMap_assoc,
    List.flatMap_nil, List.append_nil, each, literal]

/-- A template can be taken apart into placeholders and text without placeholders, in one way. With
any data the message is that text, with the value of its word or else the placeholder itself in the
place of each placeholder. -/
theorem template_filled_once (template : String) :
    ∃ reading, Reads template.toList reading ∧
      (∀ other, Reads template.toList other → other = reading) ∧
      ∀ data, fillTemplate template data = String.ofList (reading.filled data) := by
  have begun : Quiet (List.reverse []) template.toList := Quiet.nil _
  obtain ⟨reading, same, reads⟩ := piecesFrom_reads begun
  refine ⟨reading, reads, ?_, ?_⟩
  · intro other also
    exact pieces_injective (also.pieces.symm.trans same)
  · intro data
    rw [fillTemplate, AngularLint.pieces, same, fill_pieces]

end Pieces

end AngularLint.Proofs.Placeholders
