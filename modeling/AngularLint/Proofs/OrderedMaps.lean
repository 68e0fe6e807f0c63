import AngularLint.OrderedMap

/-! What a map holds after an insertion, and which entries a map of a list has. -/

namespace AngularLint.Proofs.OrderedMaps
open OrderedMap

variable {κ α : Type}

theorem lookup_insertEntry [BEq κ] [LawfulBEq κ] (entries : List (κ × α)) (key other : κ)
    (value : α) :
    (insertEntry key value entries).lookup other =
      if other == key then some value else entries.lookup other := by
  induction entries with
  | nil => cases same : other == key <;> simp [insertEntry, List.lookup_cons, same]
  | cons entry rest ih =>
    obtain ⟨head, held⟩ := entry
    rw [insertEntry]
    split
    next here =>
      rw [LawfulBEq.eq_of_beq here]
      cases same : other == head <;> simp [List.lookup_cons, same]
    next elsewhere =>
      cases same : other == head with
      | false => simp only [List.lookup_cons, same, ih]
      | true =>
        have different : (other == key) = false := by
          rw [LawfulBEq.eq_of_beq same, beq_eq_false_iff_ne]
          rintro rfl
          exact elsewhere (beq_self_eq_true head)
        simp [List.lookup_cons, same, different]

theorem get?_insert [BEq κ] [LawfulBEq κ] (map : OrderedMap κ α) (key other : κ) (value : α) :
    (map.insert key value).get? other = if other == key then some value else map.get? other :=
  lookup_insertEntry map.entries key other value

theorem get?_insertNew [BEq κ] [LawfulBEq κ] (map : OrderedMap κ α) (key other : κ) (value : α) :
    (map.insertNew key value).get? other =
      (map.get? other).or (if other == key then some value else none) := by
  rw [insertNew, contains]
  cases held : map.get? key with
  | some old =>
    rw [Option.isSome_some, if_pos rfl]
    cases same : other == key with
    | false => exact (Option.or_none).symm
    | true => rw [LawfulBEq.eq_of_beq same, held, Option.some_or]
  | none =>
    rw [Option.isSome_none, if_neg Bool.false_ne_true, get?_insert]
    cases same : other == key with
    | false => exact (Option.or_none).symm
    | true => rw [LawfulBEq.eq_of_beq same, held, Option.none_or]

/-- Of values that are offered one after another, the first under a key is taken, unless there was
one before. -/
theorem get?_foldl_insertNew [BEq κ] [LawfulBEq κ] {β : Type} (f : β → α) (offers : List (κ × β))
    (map : OrderedMap κ α) (key : κ) :
    (offers.foldl (fun map offer => map.insertNew offer.1 (f offer.2)) map).get? key =
      (map.get? key).or ((offers.lookup key).map f) := by
  induction offers generalizing map with
  | nil => simp
  | cons offer rest ih =>
    rw [List.foldl_cons, ih, get?_insertNew, Option.or_assoc, List.lookup_cons]
    cases key == offer.1 <;> rfl

/-- Where no key comes twice, looking up a key finds the entry that has it. -/
theorem lookup_iff_mem [BEq κ] [LawfulBEq κ] {entries : List (κ × α)}
    (distinct : (entries.map Prod.fst).Nodup) {key : κ} {value : α} :
    entries.lookup key = some value ↔ (key, value) ∈ entries := by
  constructor
  · intro found
    obtain ⟨before, later, split, _⟩ := List.lookup_eq_some_iff.mp found
    exact split ▸ List.mem_append_right _ List.mem_cons_self
  · intro member
    obtain ⟨before, later, rfl⟩ := List.append_of_mem member
    refine List.lookup_eq_some_iff.mpr ⟨before, later, rfl, ?_⟩
    rw [List.map_append, List.nodup_append] at distinct
    intro entry early
    exact bne_iff_ne.mpr
      (distinct.2.2 _ (List.mem_map_of_mem early) _ List.mem_cons_self).symm

theorem key_mem_insertEntry [BEq κ] {entries : List (κ × α)} {key other : κ} {value : α}
    (member : other ∈ (insertEntry key value entries).map Prod.fst) :
    other = key ∨ other ∈ entries.map Prod.fst := by
  induction entries with
  | nil => exact .inl (List.mem_singleton.mp member)
  | cons entry rest ih =>
    rw [insertEntry] at member
    split at member
    · exact .inr member
    · rcases List.mem_cons.mp member with same | later
      · exact .inr (same ▸ List.mem_cons_self)
      · exact (ih later).imp_right (List.mem_cons_of_mem _)

theorem insertEntry_distinct [BEq κ] [LawfulBEq κ] {entries : List (κ × α)}
    (distinct : (entries.map Prod.fst).Nodup) (key : κ) (value : α) :
    ((insertEntry key value entries).map Prod.fst).Nodup := by
  induction entries with
  | nil => exact List.pairwise_singleton _ key
  | cons entry rest ih =>
    rw [insertEntry]
    split
    · exact distinct
    next elsewhere =>
      obtain ⟨new, others⟩ := List.nodup_cons.mp distinct
      refine List.nodup_cons.mpr ⟨?_, ih others⟩
      intro again
      rcases key_mem_insertEntry again with same | present
      · exact elsewhere (beq_iff_eq.mpr same.symm)
      · exact new present

variable [BEq κ]

theorem value_mem_insertEntry {entries : List (κ × α)} {key : κ} {value : α} {entry : κ × α}
    (member : entry ∈ insertEntry key value entries) : entry ∈ entries ∨ entry.2 = value := by
  induction entries with
  | nil => exact .inr (congrArg Prod.snd (List.mem_singleton.mp member))
  | cons head rest ih =>
    rw [insertEntry] at member
    split at member
    · rcases List.mem_cons.mp member with rfl | later
      · exact .inr rfl
      · exact .inl (List.mem_cons_of_mem _ later)
    · rcases List.mem_cons.mp member with rfl | later
      · exact .inl List.mem_cons_self
      · exact (ih later).imp_left (List.mem_cons_of_mem _)

/-- A map of a list has values of the list only. -/
theorem value_mem_ofList {entries : List (κ × α)} :
    ∀ entry ∈ (ofList entries).entries, ∃ given ∈ entries, given.2 = entry.2 := by
  let Known (map : OrderedMap κ α) := ∀ entry ∈ map.entries, ∃ given ∈ entries, given.2 = entry.2
  have first : Known empty := fun entry member => by cases member
  refine List.foldlRecOn (motive := Known) entries (fun map entry => map.insert entry.1 entry.2)
    first ?_
  intro map known given inside entry member
  rcases value_mem_insertEntry member with before | same
  · exact known entry before
  · exact ⟨given, inside, same.symm⟩

theorem insertEntry_new {entries : List (κ × α)} {key : κ} (value : α)
    (new : ∀ entry ∈ entries, (key == entry.1) = false) :
    insertEntry key value entries = entries ++ [(key, value)] := by
  induction entries with
  | nil => rfl
  | cons head rest ih =>
    have other : ¬ (key == head.1) = true := Bool.eq_false_iff.mp (new head List.mem_cons_self)
    rw [insertEntry, if_neg other, ih fun entry member => new entry (List.mem_cons_of_mem _ member),
      List.cons_append]

/-- A map of a list in which no key comes twice has just the entries of the list. -/
theorem entries_ofList {entries : List (κ × α)}
    (distinct : entries.Pairwise fun first second => (second.1 == first.1) = false) :
    (ofList entries).entries = entries := by
  have grown (before after : List (κ × α))
      (distinct : (before ++ after).Pairwise fun first second => (second.1 == first.1) = false) :
      (after.foldl (fun map entry => map.insert entry.1 entry.2)
        (⟨before⟩ : OrderedMap κ α)).entries = before ++ after := by
    induction after generalizing before with
    | nil => exact (List.append_nil before).symm
    | cons entry rest ih =>
      have new := (List.pairwise_append.mp distinct).2.2
      rw [List.foldl_cons, OrderedMap.insert,
        insertEntry_new _ fun held member => new held member entry List.mem_cons_self,
        ih _ (by simpa using distinct), List.append_assoc, List.singleton_append]
  exact grown [] entries distinct

end AngularLint.Proofs.OrderedMaps
