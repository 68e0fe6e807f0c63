/-! Finite maps that keep the order in which their keys first came. Putting a value under a key that
is already there changes the value and leaves the key in its place. -/

namespace AngularLint

/-- A map from keys to values, its entries in the order of their first insertion. -/
structure OrderedMap (κ α : Type) where
  entries : List (κ × α)
deriving DecidableEq, Repr

namespace OrderedMap

variable {κ α : Type} [BEq κ]

def empty : OrderedMap κ α :=
  ⟨[]⟩

instance : Inhabited (OrderedMap κ α) :=
  ⟨⟨[]⟩⟩

def get? (map : OrderedMap κ α) (key : κ) : Option α :=
  map.entries.lookup key

def contains (map : OrderedMap κ α) (key : κ) : Bool :=
  (map.get? key).isSome

/-- Changes the first entry under the key, or adds one at the end. -/
def insertEntry (key : κ) (value : α) : List (κ × α) → List (κ × α)
  | [] => [(key, value)]
  | (k, v) :: rest => if key == k then (k, value) :: rest else (k, v) :: insertEntry key value rest

/-- Puts a value under a key; a key that is there keeps its place. -/
def insert (map : OrderedMap κ α) (key : κ) (value : α) : OrderedMap κ α :=
  ⟨insertEntry key value map.entries⟩

/-- Puts a value under a key that has none, and changes nothing otherwise. -/
def insertNew (map : OrderedMap κ α) (key : κ) (value : α) : OrderedMap κ α :=
  if map.contains key then map else map.insert key value

def values (map : OrderedMap κ α) : List α :=
  map.entries.map Prod.snd

def keys (map : OrderedMap κ α) : List κ :=
  map.entries.map Prod.fst

def size (map : OrderedMap κ α) : Nat :=
  map.entries.length

/-- The map of a list of entries, read from the left; of two entries with one key the later value
counts. -/
def ofList (entries : List (κ × α)) : OrderedMap κ α :=
  entries.foldl (fun map entry => map.insert entry.1 entry.2) empty

end OrderedMap

end AngularLint
