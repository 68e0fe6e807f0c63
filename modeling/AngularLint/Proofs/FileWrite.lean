import AngularLint.Files.Store
import AngularLint.Proofs.OrderedMaps
import AngularLint.Proofs.Utf8RoundTrip

/-! Writing a file. A file that can be read can be written, and then holds the new text; nothing
else in the store changes, and the path still leads to it. The text is read back as it is if it has
no carriage return in it, as no text has that was read from a file. -/

namespace AngularLint.Proofs.FileWrite
open AngularLint.Text OrderedMaps Utf8RoundTrip

theorem noReturn_unifyLineEnds (text : List Char) : '\r' ∉ unifyLineEnds text := by
  fun_induction unifyLineEnds text with
  | case1 rest ih => simpa using ih
  | case2 rest _ ih => simpa using ih
  | case3 c rest _ other ih =>
    simp only [List.mem_cons, not_or]
    exact ⟨fun same => other same.symm, ih⟩
  | case4 => simp

theorem unifyLineEnds_of_noReturn {text : List Char} (plain : '\r' ∉ text) :
    unifyLineEnds text = text := by
  fun_induction unifyLineEnds text with
  | case1 rest ih => simp at plain
  | case2 rest _ ih => simp at plain
  | case3 c rest _ _ ih => rw [ih fun later => plain (List.mem_cons_of_mem _ later)]
  | case4 => rfl

/-- Is there a directory, a file or nothing? -/
def sort (entry : Option FileEntry) : Option Bool :=
  entry.map (· == .directory)

theorem locateFrom_eq_of_sort {before after : FileStore}
    (alike : ∀ place, sort (after.entryAt? place) = sort (before.entryAt? place)) (text : String)
    (place : Place) (parts : List String) :
    after.locateFrom text place parts = before.locateFrom text place parts := by
  induction parts generalizing place with
  | nil => rfl
  | cons part rest ih =>
    have same := alike place
    rw [FileStore.locateFrom, FileStore.locateFrom, ih]
    cases new : after.entryAt? place with
    | none =>
      cases old : before.entryAt? place with
      | none => rfl
      | some entry => simp [sort, new, old] at same
    | some found =>
      cases old : before.entryAt? place with
      | none => simp [sort, new, old] at same
      | some entry => cases found <;> cases entry <;> simp_all [sort]

theorem entryAt?_of_locate {store : FileStore} {path : FilePath} {place : Place}
    {entry : FileEntry} (located : store.locate path = .ok (place, entry)) :
    store.entryAt? place = some entry := by
  simp only [FileStore.locate] at located
  split at located
  · cases located
  · split at located
    · cases located
    · split at located
      · cases located
      · split at located
        next => cases located
        next found =>
          cases located
          exact found

theorem locate_of_sort {before after : FileStore} {path : FilePath} {place : Place}
    {old new : FileEntry}
    (alike : ∀ place, sort (after.entryAt? place) = sort (before.entryAt? place))
    (located : before.locate path = .ok (place, old)) (entry : after.entryAt? place = some new) :
    after.locate path = .ok (place, new) := by
  simp only [FileStore.locate, locateFrom_eq_of_sort alike] at located ⊢
  split at located
  · cases located
  next valid =>
    rw [if_neg valid]
    split at located
    · cases located
    next short =>
      rw [if_neg short]
      split at located
      · cases located
      next reached =>
        split at located
        · cases located
        · cases located
          simp only [entry]

/-- The file at a path has got a text, and nothing else has changed. -/
def Written (before after : FileStore) (path : FilePath) (text : String) : Prop :=
  ∃ place bytes, before.locate path = .ok (place, .file bytes) ∧
    after.locate path = .ok (place, .file text.toUTF8.toList) ∧
    ∀ other, other ≠ place → after.entryAt? other = before.entryAt? other

theorem entryAt?_insert (store : FileStore) (name : String) (outer : List String)
    (entry : FileEntry) (place : Place) :
    (⟨store.entries.insert (name :: outer).reverse entry⟩ : FileStore).entryAt? place =
      if place = .inside (name :: outer) then some entry else store.entryAt? place := by
  split
  next same =>
    rw [same]
    exact (get?_insert _ _ _ _).trans (if_pos (beq_self_eq_true _))
  next other =>
    match place with
    | .inside [] => rfl
    | .above => rfl
    | .beyond => rfl
    | .inside (part :: rest) =>
      have different : ((part :: rest).reverse == (name :: outer).reverse) = false := by
        rw [beq_eq_false_iff_ne]
        exact fun same => other (congrArg Place.inside (List.reverse_inj.mp same))
      exact (get?_insert _ _ _ _).trans (if_neg (Bool.eq_false_iff.mp different))

theorem readText_locate {store : FileStore} {path : FilePath} {text : String}
    (readable : store.readText path = .ok text) :
    ∃ place bytes, store.locate path = .ok (place, .file bytes) := by
  rw [FileStore.readText] at readable
  split at readable
  next => cases readable
  next => cases readable
  next place bytes located => exact ⟨place, bytes, located⟩

theorem noReturn_of_read {store : FileStore} {path : FilePath} {text : String}
    (readable : store.readText path = .ok text) : '\r' ∉ text.toList := by
  rw [FileStore.readText] at readable
  split at readable
  next => cases readable
  next => cases readable
  next =>
    split at readable
    next => cases readable
    next =>
      cases readable
      rw [String.toList_ofList]
      exact noReturn_unifyLineEnds _

theorem writeText_written {store : FileStore} {path : FilePath} {old : String}
    (readable : store.readText path = .ok old) (text : String) :
    Written store (store.writeText path text) path text := by
  obtain ⟨place, bytes, located⟩ := readText_locate readable
  have held := entryAt?_of_locate located
  match place with
  | .inside (name :: outer) =>
    have changed := entryAt?_insert store name outer (.file text.toUTF8.toList)
    simp only [FileStore.writeText, located]
    refine ⟨.inside (name :: outer), bytes, located, locate_of_sort ?_ located ?_, ?_⟩
    · intro place
      rw [changed]
      split
      next same => rw [same, held]; rfl
      next => rfl
    · rw [changed, if_pos rfl]
    · intro other elsewhere
      rw [changed, if_neg elsewhere]
  | .inside [] | .above | .beyond => cases held

theorem readText_written {before after : FileStore} {path : FilePath} {text : String}
    (written : Written before after path text) (plain : '\r' ∉ text.toList) :
    after.readText path = .ok text := by
  obtain ⟨place, _, _, located, _⟩ := written
  simp only [FileStore.readText, located, decodeUtf8_toUTF8, unifyLineEnds_of_noReturn plain,
    String.ofList_toList]

end AngularLint.Proofs.FileWrite
