import AngularLint.Files.Sources
import AngularLint.Proofs.FileWrite

/-! The names in a store. Writing into a file leaves all directories and files under their names and
in their order, so a search for source files finds the same ones before and after. -/

namespace AngularLint.Proofs.StoreShape
open FileWrite

variable {before after : FileStore}

def shape (named : List String × FileEntry) : List String × Bool :=
  (named.1, named.2 == .directory)

/-- The stores have the same names in the same order, for directories and for files. -/
def Alike (before after : FileStore) : Prop :=
  after.entries.entries.map shape = before.entries.entries.map shape

theorem Alike.refl (store : FileStore) : Alike store store :=
  rfl

theorem Alike.trans {first second third : FileStore} (early : Alike first second)
    (late : Alike second third) : Alike first third :=
  Eq.trans late early

theorem lookup_shape (entries : List (List String × FileEntry)) (name : List String) :
    (entries.map shape).lookup name = sort (entries.lookup name) := by
  induction entries with
  | nil => rfl
  | cons entry rest ih =>
    rw [List.map_cons, shape, List.lookup_cons, List.lookup_cons, ih]
    cases name == entry.1 <;> rfl

theorem Alike.entryAt? (alike : Alike before after) (place : Place) :
    sort (after.entryAt? place) = sort (before.entryAt? place) := by
  match place with
  | .inside [] | .above | .beyond => rfl
  | .inside (name :: outer) =>
    have lookups := congrArg (List.lookup (name :: outer).reverse) alike
    rw [lookup_shape, lookup_shape] at lookups
    exact lookups

/-- A path leads to the same place in both stores, and to a directory in both or in none. -/
theorem Alike.locate (alike : Alike before after) (path : FilePath) :
    (∃ fault, before.locate path = .error fault ∧ after.locate path = .error fault) ∨
      ∃ place old new, before.locate path = .ok (place, old) ∧
        after.locate path = .ok (place, new) ∧ (new == .directory) = (old == .directory) := by
  simp only [FileStore.locate, locateFrom_eq_of_sort alike.entryAt?]
  split
  · exact .inl ⟨_, rfl, rfl⟩
  · split
    · exact .inl ⟨_, rfl, rfl⟩
    · split
      · exact .inl ⟨_, rfl, rfl⟩
      next place _ =>
        have same := alike.entryAt? place
        cases old : before.entryAt? place with
        | none =>
          cases new : after.entryAt? place with
          | none => exact .inl ⟨_, rfl, rfl⟩
          | some entry =>
            rw [old, new] at same
            cases same
        | some entry =>
          cases new : after.entryAt? place with
          | none =>
            rw [old, new] at same
            cases same
          | some other =>
            rw [old, new] at same
            exact .inr ⟨place, entry, other, rfl, rfl, Option.some.inj same⟩

theorem Alike.isDirectory (alike : Alike before after) (path : FilePath) :
    after.isDirectory path = before.isDirectory path := by
  simp only [FileStore.isDirectory]
  rcases alike.locate path with ⟨fault, old, new⟩ | ⟨place, old, new, there, here, same⟩
  · rw [old, new]
  · rw [there, here]
    cases old <;> cases new <;> first | rfl | cases same

theorem Alike.partsBelow (alike : Alike before after) (directory : List String) :
    after.partsBelow directory = before.partsBelow directory := by
  have shaped (store : FileStore) : store.partsBelow directory =
      (store.entries.entries.map shape).filterMap fun (parts, isDirectory) =>
        if isDirectory then none
        else if directory.isPrefixOf parts then some (parts.drop directory.length) else none := by
    rw [FileStore.partsBelow, List.filterMap_map]
    refine congrArg (List.filterMap · store.entries.entries) (funext ?_)
    intro (parts, entry)
    cases entry <;> rfl
  rw [shaped, shaped, alike]

theorem Alike.sourcesAt (alike : Alike before after) (path : FilePath) :
    sourcesAt after path = sourcesAt before path := by
  have below (place : Place) : after.filesBelow place = before.filesBelow place := by
    cases place with
    | inside parts => rw [FileStore.filesBelow, FileStore.filesBelow, alike.partsBelow]
    | above => rfl
    | beyond => rfl
  rw [AngularLint.sourcesAt, AngularLint.sourcesAt, alike.isDirectory]
  rcases alike.locate path with ⟨fault, old, new⟩ | ⟨place, old, new, there, here, _⟩
  · rw [old, new]
  · rw [there, here]
    simp only [below]

theorem insertEntry_shape {entries : List (List String × FileEntry)} {name : List String}
    {old new : FileEntry} (held : entries.lookup name = some old)
    (same : (new == .directory) = (old == .directory)) :
    (OrderedMap.insertEntry name new entries).map shape = entries.map shape := by
  induction entries with
  | nil => cases held
  | cons entry rest ih =>
    obtain ⟨key, value⟩ := entry
    rw [List.lookup_cons] at held
    rw [OrderedMap.insertEntry]
    cases here : name == key with
    | true =>
      rw [here] at held
      cases held
      rw [if_pos rfl, List.map_cons, List.map_cons, shape, shape, same]
    | false =>
      rw [here] at held
      rw [if_neg Bool.false_ne_true, List.map_cons, List.map_cons, ih held]

theorem writeText_alike (store : FileStore) (path : FilePath) (text : String) :
    Alike store (store.writeText path text) := by
  rw [FileStore.writeText]
  split
  next parts bytes located =>
    have held := entryAt?_of_locate located
    cases parts with
    | nil => cases held
    | cons name outer => exact insertEntry_shape held rfl
  next => exact .refl store

end AngularLint.Proofs.StoreShape
