import AngularLint.Node.Build

/-! From byte offsets to character offsets. The table of a text has an entry for each of its bytes
and one for its end, and its entries never go down. Where a character starts, the entry is the
number of characters before it. In a text of one-byte characters the table says nothing else than
the offsets themselves, so leaving it out there changes nothing. -/

namespace AngularLint.Proofs.ByteOffsets
open Offsets

theorem byteSize_cons (c : Char) (rest : List Char) :
    (String.ofList (c :: rest)).utf8ByteSize = c.utf8Size + (String.ofList rest).utf8ByteSize := by
  rw [← List.singleton_append, String.ofList_append, String.utf8ByteSize_append,
    ← String.singleton_eq_ofList, String.utf8ByteSize_singleton]

theorem length_le_byteSize (chars : List Char) :
    chars.length ≤ (String.ofList chars).utf8ByteSize := by
  induction chars with
  | nil => exact Nat.zero_le _
  | cons c rest ih =>
    have some := c.utf8Size_pos
    rw [byteSize_cons, List.length_cons]
    omega

theorem entriesFrom_length (index : Nat) (chars : List Char) :
    (entriesFrom index chars).length = (String.ofList chars).utf8ByteSize + 1 := by
  induction chars generalizing index with
  | nil => rfl
  | cons c rest ih =>
    rw [entriesFrom, List.length_append, List.length_replicate, ih, byteSize_cons, Nat.add_assoc]

theorem entriesFrom_bounds (index : Nat) (chars : List Char) :
    ∀ offset ∈ entriesFrom index chars, index ≤ offset ∧ offset ≤ index + chars.length := by
  induction chars generalizing index with
  | nil => simp [entriesFrom]
  | cons c rest ih =>
    intro offset member
    rw [List.length_cons]
    rcases List.mem_append.mp member with first | later
    · rw [List.eq_of_mem_replicate first]
      omega
    · have bounds := ih (index + 1) offset later
      omega

theorem entriesFrom_sorted (index : Nat) (chars : List Char) :
    (entriesFrom index chars).Pairwise (· ≤ ·) := by
  induction chars generalizing index with
  | nil => exact List.pairwise_singleton _ _
  | cons c rest ih =>
    rw [entriesFrom, List.pairwise_append]
    refine ⟨List.pairwise_replicate.mpr (.inr (Nat.le_refl index)), ih (index + 1), ?_⟩
    intro first own second later
    rw [List.eq_of_mem_replicate own]
    exact Nat.le_of_succ_le (entriesFrom_bounds (index + 1) rest second later).1

/-- Behind some characters the entry is their number. -/
theorem entriesFrom_boundary (index : Nat) (before after : List Char) :
    (entriesFrom index (before ++ after))[(String.ofList before).utf8ByteSize]? =
      some (index + before.length) := by
  induction before generalizing index with
  | nil =>
    cases after with
    | nil => rfl
    | cons c rest =>
      have some := c.utf8Size_pos
      rw [List.nil_append, entriesFrom, List.getElem?_append_left (by simpa using some)]
      exact List.getElem?_replicate_of_lt some
  | cons c rest ih =>
    rw [List.cons_append, entriesFrom, byteSize_cons,
      List.getElem?_append_right (by simp), List.length_replicate, Nat.add_sub_cancel_left, ih,
      List.length_cons]
    congr 1
    omega

/-- In a text without longer characters every byte is a character of its own. -/
theorem entriesFrom_of_single (index : Nat) (chars : List Char)
    (single : (String.ofList chars).utf8ByteSize = chars.length) :
    entriesFrom index chars = List.range' index (chars.length + 1) := by
  induction chars generalizing index with
  | nil => rfl
  | cons c rest ih =>
    have some := c.utf8Size_pos
    have others := length_le_byteSize rest
    rw [byteSize_cons, List.length_cons] at single
    have one : c.utf8Size = 1 := by omega
    rw [entriesFrom, one, ih (index + 1) (by omega), List.length_cons,
      List.range'_succ (s := index)]
    rfl

/-- The offsets of a text by its table, also where the table can be left out. -/
def tabled (text : String) : Offsets :=
  .table (entriesFrom 0 text.toList).toArray

theorem tabled_charOffset {text : String} {byte offset : Nat}
    (entry : (entriesFrom 0 text.toList)[byte]? = some offset) :
    (tabled text).charOffset byte = .ok offset := by
  simp only [tabled, charOffset, List.getElem?_toArray, entry]

theorem entry_of_le {text : String} {byte : Nat} (inside : byte ≤ text.utf8ByteSize) :
    ∃ offset, (entriesFrom 0 text.toList)[byte]? = some offset := by
  have length := entriesFrom_length 0 text.toList
  rw [String.ofList_toList] at length
  exact ⟨_, List.getElem?_eq_getElem (by omega)⟩

/-- With or without the table, a byte offset stands for the same character offset. -/
theorem ofText_charOffset {text : String} {byte : Nat} (inside : byte ≤ text.utf8ByteSize) :
    (ofText text).charOffset byte = (tabled text).charOffset byte := by
  rw [ofText]
  split
  next single =>
    rw [beq_iff_eq, ← String.length_toList] at single
    have entries := entriesFrom_of_single 0 text.toList (by rw [String.ofList_toList, single])
    have entry : (entriesFrom 0 text.toList)[byte]? = some byte := by
      rw [entries, List.getElem?_range' (by omega), Nat.zero_add, Nat.one_mul]
    rw [tabled_charOffset entry, charOffset]
  next => rfl

theorem charOffset_of_entry {text : String} {byte offset : Nat} (inside : byte ≤ text.utf8ByteSize)
    (entry : (entriesFrom 0 text.toList)[byte]? = some offset) :
    (ofText text).charOffset byte = .ok offset :=
  (ofText_charOffset inside).trans (tabled_charOffset entry)

/-- A later byte never stands for an earlier character, and none for one outside the text. -/
theorem charOffset_monotone {text : String} {first second : Nat} (early : first ≤ second)
    (inside : second ≤ text.utf8ByteSize) :
    ∃ start stop, (ofText text).charOffset first = .ok start ∧
      (ofText text).charOffset second = .ok stop ∧ start ≤ stop ∧ stop ≤ text.length := by
  have within := Nat.le_trans early inside
  obtain ⟨start, firstEntry⟩ := entry_of_le within
  obtain ⟨stop, secondEntry⟩ := entry_of_le inside
  refine ⟨start, stop, charOffset_of_entry within firstEntry,
    charOffset_of_entry inside secondEntry, ?_, ?_⟩
  · rcases Nat.eq_or_lt_of_le early with rfl | before
    · rw [firstEntry] at secondEntry
      exact Nat.le_of_eq (Option.some.inj secondEntry)
    · obtain ⟨firstInside, rfl⟩ := List.getElem?_eq_some_iff.mp firstEntry
      obtain ⟨secondInside, rfl⟩ := List.getElem?_eq_some_iff.mp secondEntry
      exact List.pairwise_iff_getElem.mp (entriesFrom_sorted 0 text.toList) _ _ firstInside
        secondInside before
  · have bounds := entriesFrom_bounds 0 text.toList stop (List.mem_of_getElem? secondEntry)
    rw [String.length_toList] at bounds
    omega

/-- Where a character starts, or the text ends, the character offset counts the characters
before. -/
theorem charOffset_boundary (before after : String) :
    (ofText (before ++ after)).charOffset before.utf8ByteSize = .ok before.length := by
  have entry := entriesFrom_boundary 0 before.toList after.toList
  rw [String.ofList_toList, ← String.toList_append, Nat.zero_add, String.length_toList] at entry
  refine charOffset_of_entry ?_ entry
  rw [String.utf8ByteSize_append]
  exact Nat.le_add_right _ _

/-- Of two ways to cut a text in two, the one with the shorter first part leaves a middle part. -/
theorem cut_between {first rest second last : String} (same : first ++ rest = second ++ last)
    (shorter : first.utf8ByteSize ≤ second.utf8ByteSize) :
    ∃ middle, second = first ++ middle ∧ rest = middle ++ last := by
  have lists := congrArg String.toList same
  rw [String.toList_append, String.toList_append, List.append_eq_append_iff] at lists
  rcases lists with ⟨middle, inner, outer⟩ | ⟨middle, inner, outer⟩
  · refine ⟨.ofList middle, ?_, ?_⟩ <;> apply String.toList_injective <;> simp [inner, outer]
  · -- the other way round the first part would be longer, unless nothing is between
    have sizes : first.utf8ByteSize = second.utf8ByteSize + (String.ofList middle).utf8ByteSize := by
      rw [← String.utf8ByteSize_append]
      congr 1
      apply String.toList_injective
      simp [inner]
    have none : middle = [] := by
      have short := length_le_byteSize middle
      exact List.eq_nil_of_length_eq_zero (by omega)
    subst none
    refine ⟨"", ?_, ?_⟩ <;> apply String.toList_injective <;> simp_all

theorem slice_append (first middle last : String) :
    Text.slice (first ++ middle ++ last) first.length (first ++ middle).length = middle := by
  apply String.toList_injective
  rw [Text.slice, String.toList_ofList, String.toList_append (s := first ++ middle),
    ← String.length_toList (s := first ++ middle), List.take_left, String.toList_append,
    ← String.length_toList, List.drop_left]

theorem extract_append (first middle last : String) :
    (first ++ middle ++ last).toUTF8.extract first.utf8ByteSize (first ++ middle).utf8ByteSize =
      middle.toUTF8 := by
  have behind := ByteArray.extract_append_size_add (a := first.toByteArray)
    (b := middle.toByteArray ++ last.toByteArray) (i := 0) (j := middle.toByteArray.size)
  rw [Nat.add_zero, ← ByteArray.append_assoc, ByteArray.extract_append_size_left,
    ByteArray.extract_zero_size] at behind
  simpa only [String.toUTF8_eq_toByteArray, String.toByteArray_append, String.utf8ByteSize_append,
    String.size_toByteArray] using behind

end AngularLint.Proofs.ByteOffsets
