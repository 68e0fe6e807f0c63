import AngularLint.SourceFile
import Mathlib.Data.Prod.Lex
import Mathlib.Data.List.TakeWhile

/-! Lines and columns. The line of an offset is found by halving the table of line starts, and its
indentation by going back from the offset to the nearest line feed. Both come to the same start of
the line, so a line and a column say where in the text they are. -/

namespace AngularLint.Proofs.LinePositions
open SourceFile

/-- The line of an offset begins here: at the start of the text or just after a line feed, and there
is no line feed from here up to the offset. -/
structure Begins (text : List Char) (offset start : Nat) : Prop where
  early : start ≤ offset
  behind : start = 0 ∨ text[start - 1]? = some '\n'
  last : ∀ index, start ≤ index → index < offset → text[index]? ≠ some '\n'

/-- The spaces and tabs at the front of a text, all of them. -/
structure Indents (text indent : List Char) : Prop where
  front : indent <+: text
  blank : ∀ c ∈ indent, c = ' ' ∨ c = '\t'
  longest : ∀ other, other <+: text → (∀ c ∈ other, c = ' ' ∨ c = '\t') → other <+: indent

/-- The offset at a line and a column, if the file has so many lines. -/
def offsetAt? (file : SourceFile) (position : Nat × Nat) : Option Nat :=
  file.lineStarts[position.1 - 1]?.map fun start => start + (position.2 - 1)

theorem Begins.unique {text : List Char} {offset start other : Nat}
    (begins : Begins text offset start) (also : Begins text offset other) : start = other := by
  have ordered {first second : Nat} (here : Begins text offset first)
      (there : Begins text offset second) : second ≤ first := by
    apply Nat.le_of_not_lt
    intro later
    rcases there.behind with zero | feed
    · omega
    · have bound := there.early
      exact here.last (second - 1) (by omega) (by omega) feed
  exact Nat.le_antisymm (ordered also begins) (ordered begins also)

/-- The line begins behind the last line feed of the text before the offset. -/
theorem begins_of_split {text kept passed : List Char} {offset : Nat}
    (split : text.take offset = kept ++ passed)
    (feed : ∀ c, kept.getLast? = some c → c = '\n') (clear : '\n' ∉ passed) :
    Begins text offset kept.length := by
  have same {index : Nat} (inside : index < offset) :
      text[index]? = (kept ++ passed)[index]? := by
    rw [← split, List.getElem?_take_of_lt inside]
  have short : kept.length ≤ offset := by
    have bound := List.length_take_le offset text
    rw [split, List.length_append] at bound
    omega
  refine ⟨short, ?_, ?_⟩
  · cases last : kept.getLast? with
    | none => exact .inl (congrArg List.length (List.getLast?_eq_none_iff.mp last))
    | some c =>
      right
      have found := last
      rw [List.getLast?_eq_getElem?] at found
      obtain ⟨inside, _⟩ := List.getElem?_eq_some_iff.mp found
      rw [same (by omega), List.getElem?_append_left inside, found, feed c last]
  · intro index behind inside found
    rw [same inside, List.getElem?_append_right behind] at found
    exact clear (List.mem_of_getElem? found)

section Bisection

variable {table : Array Nat} {offset : Nat}

/-- Halving ends where the entries that are not above the offset end, wherever that is within the
range it starts with. -/
theorem bisect_eq {low high count : Nat} (inside : high ≤ table.size) (least : low ≤ count)
    (most : count ≤ high) (upTo : ∀ index entry, table[index]? = some entry →
      (entry ≤ offset ↔ index < count)) :
    bisect table offset low high inside = count := by
  fun_induction bisect table offset low high inside with
  | case1 low high inside undecided middle above ih =>
    apply ih least
    have here := upTo middle _ (Array.getElem?_eq_getElem (by omega))
    omega
  | case2 low high inside undecided middle upward ih =>
    apply ih _ most
    have here := upTo middle _ (Array.getElem?_eq_getElem (by omega))
    omega
  | case3 low high inside decided => omega

end Bisection

section Table

variable {text : List Char}

/-- The number of line feeds before an offset. -/
def feedsBefore (text : List Char) (offset : Nat) : Nat :=
  (text.take offset).count '\n'

theorem feedsBefore_cons (c : Char) (rest : List Char) (offset : Nat) :
    feedsBefore (c :: rest) (offset + 1) =
      feedsBefore rest offset + if c = '\n' then 1 else 0 := by
  simp [feedsBefore, List.count_cons]

theorem lineStartsFrom_length (index : Nat) (text : List Char) :
    (lineStartsFrom index text).length = text.count '\n' := by
  induction text generalizing index with
  | nil => rfl
  | cons c rest ih => by_cases feed : c = '\n' <;> simp [lineStartsFrom, feed, ih]

theorem mem_lineStartsFrom {index start : Nat} :
    start ∈ lineStartsFrom index text ↔
      ∃ position, text[position]? = some '\n' ∧ start = index + position + 1 := by
  induction text generalizing index with
  | nil => simp [lineStartsFrom]
  | cons c rest ih =>
    have shifted : (∃ position, (c :: rest)[position]? = some '\n' ∧ start = index + position + 1) ↔
        (c = '\n' ∧ start = index + 1) ∨
          ∃ position, rest[position]? = some '\n' ∧ start = index + 1 + position + 1 := by
      constructor
      · rintro ⟨position, feed, rfl⟩
        cases position with
        | zero => exact .inl ⟨by simpa using feed, rfl⟩
        | succ position => exact .inr ⟨position, feed, by omega⟩
      · rintro (⟨rfl, rfl⟩ | ⟨position, feed, rfl⟩)
        · exact ⟨0, rfl, rfl⟩
        · exact ⟨position + 1, feed, by omega⟩
    rw [shifted, lineStartsFrom]
    by_cases feed : c = '\n' <;> simp [feed, ih]

/-- The starts up to an offset are as many as the line feeds before it. -/
theorem lineStartsFrom_upTo {index place start : Nat}
    (entry : (lineStartsFrom index text)[place]? = some start) (offset : Nat) :
    start ≤ index + offset ↔ place < feedsBefore text offset := by
  induction text generalizing index place offset with
  | nil => simp [lineStartsFrom] at entry
  | cons c rest ih =>
    cases offset with
    | zero =>
      obtain ⟨position, _, rfl⟩ := mem_lineStartsFrom.mp (List.mem_of_getElem? entry)
      have none : feedsBefore (c :: rest) 0 = 0 := rfl
      omega
    | succ offset =>
      have later {place : Nat} (entry : (lineStartsFrom (index + 1) rest)[place]? = some start) :
          start ≤ index + 1 + offset ↔ place < feedsBefore rest offset := ih entry offset
      rw [feedsBefore_cons]
      rw [lineStartsFrom] at entry
      by_cases feed : c = '\n'
      · rw [if_pos (beq_iff_eq.mpr feed)] at entry
        rw [if_pos feed]
        cases place with
        | zero =>
          cases entry
          omega
        | succ place =>
          have counted := later entry
          omega
      · rw [if_neg (mt beq_iff_eq.mp feed)] at entry
        have counted := later entry
        rw [if_neg feed]
        omega

end Table

section File

variable {file : SourceFile} {offset : Nat}

theorem mem_lineStarts {start : Nat} :
    start ∈ file.lineStarts ↔
      start = 0 ∨ ∃ position, file.text.toList[position]? = some '\n' ∧ start = position + 1 := by
  rw [lineStarts, List.mem_cons, mem_lineStartsFrom]
  simp only [Nat.zero_add]

theorem lineStarts_upTo {place start : Nat} (entry : file.lineStarts[place]? = some start)
    (offset : Nat) :
    start ≤ offset ↔ place < feedsBefore file.text.toList offset + 1 := by
  cases place with
  | zero =>
    have first : 0 = start := by simpa [lineStarts] using entry
    omega
  | succ place =>
    have later := lineStartsFrom_upTo entry offset
    rw [Nat.zero_add] at later
    omega

theorem feedsBefore_lt (file : SourceFile) (offset : Nat) :
    feedsBefore file.text.toList offset < file.lineStarts.length := by
  have fewer := (List.take_sublist offset file.text.toList).count_le '\n'
  rw [lineStarts, List.length_cons, lineStartsFrom_length]
  exact Nat.lt_succ_of_le fewer

/-- The table has the start of the line behind as many entries as there are line feeds before. -/
theorem lineStarts_begins {start : Nat}
    (entry : file.lineStarts[feedsBefore file.text.toList offset]? = some start) :
    Begins file.text.toList offset start where
  early := (lineStarts_upTo entry offset).mpr (Nat.lt_succ_self _)
  behind := by
    rcases mem_lineStarts.mp (List.mem_of_getElem? entry) with zero | ⟨position, feed, rfl⟩
    · exact .inl zero
    · exact .inr feed
  last := by
    intro index behind before feed
    -- a later start up to the offset would have a later place in the table
    obtain ⟨place, later⟩ :=
      List.mem_iff_getElem?.mp (mem_lineStarts.mpr (.inr ⟨index, feed, rfl⟩))
    have counted := (lineStarts_upTo later offset).mp before
    have notYet := (lineStarts_upTo later start).not.mp (by omega)
    have own := (lineStarts_upTo entry start).mp (Nat.le_refl start)
    omega

/-- Going back from an offset to the nearest line feed ends at the start of the line. -/
theorem lineStart_begins (file : SourceFile) (offset : Nat) :
    Begins file.text.toList offset (file.lineStart offset) := by
  let back := (file.text.toList.take offset).reverse
  have split : file.text.toList.take offset =
      (back.dropWhile (· != '\n')).reverse ++ (back.takeWhile (· != '\n')).reverse := by
    rw [← List.reverse_append, List.takeWhile_append_dropWhile, List.reverse_reverse]
  have start : file.lineStart offset = (back.dropWhile (· != '\n')).reverse.length := by
    change (file.text.toList.take offset).length - (back.takeWhile (· != '\n')).length = _
    rw [split]
    simp only [List.length_append, List.length_reverse, Nat.add_sub_cancel]
  rw [start]
  apply begins_of_split split
  · intro c last
    have stops := List.head?_dropWhile_not (· != '\n') back
    rw [← List.getLast?_reverse, last] at stops
    simpa using stops
  · intro passed
    simpa using List.mem_takeWhile_imp (List.mem_reverse.mp passed)

theorem lineStart_iff (file : SourceFile) (offset start : Nat) :
    Begins file.text.toList offset start ↔ file.lineStart offset = start := by
  constructor
  · intro begins
    exact (lineStart_begins file offset).unique begins
  · rintro rfl
    exact lineStart_begins file offset

theorem lineStarts_feeds (file : SourceFile) (offset : Nat) :
    file.lineStarts[feedsBefore file.text.toList offset]? = some (file.lineStart offset) := by
  have entry := List.getElem?_eq_getElem (feedsBefore_lt file offset)
  rw [entry, (lineStart_iff file offset _).mp (lineStarts_begins entry)]

/-- The table and the way back from the offset agree on the line. -/
theorem lineCol_eq (file : SourceFile) (offset : Nat) :
    file.lineCol offset =
      (1 + feedsBefore file.text.toList offset, offset - file.lineStart offset + 1) := by
  have fewer := feedsBefore_lt file offset
  have line : bisect file.lineStarts.toArray offset 0 file.lineStarts.toArray.size
      (Nat.le_refl _) = 1 + feedsBefore file.text.toList offset := by
    apply bisect_eq _ (Nat.zero_le _)
    · rw [List.size_toArray]
      omega
    · intro place start entry
      rw [List.getElem?_toArray] at entry
      rw [lineStarts_upTo entry offset, Nat.add_comm]
  rw [lineCol, line, Nat.add_sub_cancel_left, List.getElem?_toArray, lineStarts_feeds]
  rfl

theorem lineCol_strictMono (file : SourceFile) :
    StrictMono fun offset => toLex (file.lineCol offset) := by
  intro first second before
  have grown : feedsBefore file.text.toList first ≤ feedsBefore file.text.toList second :=
    (List.take_sublist_take_left (Nat.le_of_lt before)).count_le '\n'
  have early := (lineStart_begins file first).early
  simp only [lineCol_eq, Prod.Lex.toLex_lt_toLex]
  rcases Nat.lt_or_eq_of_le grown with fewer | same
  · exact .inl (by omega)
  · right
    have start := lineStarts_feeds file first
    rw [same, lineStarts_feeds, Option.some.injEq] at start
    exact ⟨by omega, by omega⟩

theorem offsetAt?_lineCol (file : SourceFile) (offset : Nat) :
    offsetAt? file (file.lineCol offset) = some offset := by
  have early := (lineStart_begins file offset).early
  rw [offsetAt?, lineCol_eq, Nat.add_sub_cancel_left, lineStarts_feeds, Option.map_some,
    Nat.add_sub_cancel, Nat.add_sub_cancel' early]

theorem lineIndent_indents (file : SourceFile) (offset : Nat) :
    Indents (file.text.toList.drop (file.lineStart offset)) (file.lineIndent offset).toList := by
  rw [lineIndent, String.toList_ofList]
  refine ⟨List.takeWhile_prefix _, ?_, ?_⟩
  · intro c member
    simpa using List.mem_takeWhile_imp member
  · rintro other ⟨rest, whole⟩ blank
    rw [← whole, List.takeWhile_append_of_pos fun c member => by simpa using blank c member]
    exact List.prefix_append _ _

/-- The line of an offset begins just after the last line feed before it. Line and column count the
line feeds and the characters up to the offset from there, also behind the end of the text. They
grow with the offset and give it back, and the indentation is read from the same place. -/
theorem positions_follow_lines (file : SourceFile) :
    (∀ offset start, Begins file.text.toList offset start ↔ file.lineStart offset = start) ∧
      (∀ offset, file.lineCol offset =
        (1 + (file.text.toList.take offset).count '\n', offset - file.lineStart offset + 1)) ∧
      (StrictMono fun offset => toLex (file.lineCol offset)) ∧
      (∀ offset, offsetAt? file (file.lineCol offset) = some offset) ∧
      ∀ offset, Indents (file.text.toList.drop (file.lineStart offset))
        (file.lineIndent offset).toList :=
  ⟨lineStart_iff file, lineCol_eq file, lineCol_strictMono file, offsetAt?_lineCol file,
    lineIndent_indents file⟩

end File

end AngularLint.Proofs.LinePositions
