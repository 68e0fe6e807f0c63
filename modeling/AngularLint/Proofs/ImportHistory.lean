import AngularLint.Proofs.OrderedMaps
import AngularLint.Rule
import Mathlib.Data.List.Induction
import Mathlib.Data.List.Nodup

/-! What a table of imports knows after some statements. A later binding of a local name replaces an
earlier one, so the table holds of each local name the last binding, and a name of a module counts
as imported as long as one of its bindings stands. -/

namespace AngularLint.Proofs.ImportHistory
open OrderedMaps

/-- The bindings of the import statements among some nodes, in order. -/
def bindingsIn (source : String) (cursors : List Cursor) : List ImportBinding :=
  cursors.flatMap fun cursor =>
    if cursor.node.kind = "import_statement" then importBindings source cursor.node else []

def lastBinding? (bindings : List ImportBinding) (localName : String) : Option ImportBinding :=
  (bindings.filter fun binding => binding.localName = localName).getLast?

/-- A name of a module is bound, under whatever local name. -/
def Bound (bindings : List ImportBinding) (modulePath importedName : String) : Prop :=
  ∃ binding ∈ bindings, binding.modulePath = modulePath ∧ binding.importedName = importedName

instance (bindings : List ImportBinding) (modulePath importedName : String) :
    Decidable (Bound bindings modulePath importedName) :=
  inferInstanceAs (Decidable (∃ binding ∈ bindings, _))

/-- A name of a module is bound, and no later binding of the same local name replaces it. -/
def Imported (bindings : List ImportBinding) (modulePath importedName : String) : Prop :=
  ∃ binding ∈ bindings, binding.modulePath = modulePath ∧ binding.importedName = importedName ∧
    lastBinding? bindings binding.localName = some binding

instance (bindings : List ImportBinding) (modulePath importedName : String) :
    Decidable (Imported bindings modulePath importedName) :=
  inferInstanceAs (Decidable (∃ binding ∈ bindings, _))

def tableOf (bindings : List ImportBinding) : ImportTable :=
  ImportTable.bind .empty bindings

theorem bindingsIn_append (source : String) (first second : List Cursor) :
    bindingsIn source (first ++ second) = bindingsIn source first ++ bindingsIn source second :=
  List.flatMap_append

theorem bindingsIn_snoc (source : String) (cursors : List Cursor) (cursor : Cursor) :
    bindingsIn source (cursors ++ [cursor]) =
      bindingsIn source cursors ++
        if cursor.node.kind = "import_statement" then importBindings source cursor.node else [] := by
  rw [bindingsIn_append]
  exact congrArg (_ ++ ·) (List.flatMap_singleton _ cursor)

theorem tableOf_append (first second : List ImportBinding) :
    tableOf (first ++ second) = (tableOf first).bind second :=
  List.foldl_append

/-- The table of the import statements among some nodes. -/
def tableAfter (source : String) (cursors : List Cursor) : ImportTable :=
  tableOf (bindingsIn source cursors)

theorem tableAfter_import {cursor : Cursor} (isImport : cursor.node.kind = "import_statement")
    (source : String) (cursors : List Cursor) :
    tableAfter source (cursors ++ [cursor]) =
      (tableAfter source cursors).record source cursor.node := by
  rw [tableAfter, bindingsIn_snoc, if_pos isImport, tableOf_append]
  rfl

theorem tableAfter_other {cursor : Cursor} (other : cursor.node.kind ≠ "import_statement")
    (source : String) (cursors : List Cursor) :
    tableAfter source (cursors ++ [cursor]) = tableAfter source cursors := by
  rw [tableAfter, bindingsIn_snoc, if_neg other, List.append_nil, tableAfter]

theorem lastBinding?_snoc (bindings : List ImportBinding) (binding : ImportBinding)
    (name : String) :
    lastBinding? (bindings ++ [binding]) name =
      if name = binding.localName then some binding else lastBinding? bindings name := by
  rw [lastBinding?, List.filter_append]
  by_cases same : name = binding.localName
  · simp [same]
  · simp [same, Ne.symm same, lastBinding?]

theorem lastBinding?_mem {bindings : List ImportBinding} {name : String} {binding : ImportBinding}
    (found : lastBinding? bindings name = some binding) :
    binding ∈ bindings ∧ binding.localName = name := by
  have kept := List.mem_filter.mp (List.mem_of_getLast? found)
  exact ⟨kept.1, of_decide_eq_true kept.2⟩

theorem Imported.bound {bindings : List ImportBinding} {modulePath importedName : String}
    (imported : Imported bindings modulePath importedName) :
    Bound bindings modulePath importedName := by
  obtain ⟨binding, member, origin, named, _⟩ := imported
  exact ⟨binding, member, origin, named⟩

theorem Bound.append {first second : List ImportBinding} {modulePath importedName : String}
    (bound : Bound first modulePath importedName) :
    Bound (first ++ second) modulePath importedName := by
  obtain ⟨binding, member, named⟩ := bound
  exact ⟨binding, List.mem_append_left _ member, named⟩

theorem lastBinding?_eq_none {bindings : List ImportBinding} {name : String} :
    lastBinding? bindings name = none ↔ ∀ binding ∈ bindings, binding.localName ≠ name := by
  simp [lastBinding?]

/-- If no local name stands for two things, then whatever is bound stays imported. -/
theorem imported_of_unambiguous {bindings : List ImportBinding}
    (unambiguous : ∀ first ∈ bindings, ∀ second ∈ bindings,
      first.localName = second.localName → first = second)
    {modulePath importedName : String} (bound : Bound bindings modulePath importedName) :
    Imported bindings modulePath importedName := by
  obtain ⟨binding, member, origin, named⟩ := bound
  cases last : lastBinding? bindings binding.localName with
  | none => exact absurd rfl (lastBinding?_eq_none.mp last binding member)
  | some other =>
    obtain ⟨present, same⟩ := lastBinding?_mem last
    have equal := unambiguous other present binding member same
    exact ⟨binding, member, origin, named, equal ▸ last⟩

theorem imported_iff_bound {bindings : List ImportBinding}
    (once : (bindings.map ImportBinding.localName).Nodup) {modulePath importedName : String} :
    Imported bindings modulePath importedName ↔ Bound bindings modulePath importedName := by
  refine ⟨Imported.bound, imported_of_unambiguous ?_⟩
  intro first here second there same
  exact List.inj_on_of_nodup_map once here there same

theorem tableOf_get? (bindings : List ImportBinding) (name : String) :
    (tableOf bindings).get? name = lastBinding? bindings name := by
  induction bindings using List.reverseRecOn with
  | nil => rfl
  | append_singleton bindings binding ih =>
    rw [tableOf_append, lastBinding?_snoc, ← ih]
    simp only [ImportTable.bind, List.foldl_cons, List.foldl_nil, get?_insert, beq_iff_eq]

theorem tableOf_distinct (bindings : List ImportBinding) : (tableOf bindings).keys.Nodup := by
  refine List.foldlRecOn (motive := fun table : ImportTable => table.keys.Nodup) bindings _
    List.nodup_nil ?_
  intro table distinct binding _
  exact insertEntry_distinct distinct _ _

theorem tableOf_values {bindings : List ImportBinding} {binding : ImportBinding} :
    binding ∈ (tableOf bindings).values ↔
      lastBinding? bindings binding.localName = some binding := by
  have entry (name : String) :
      (name, binding) ∈ (tableOf bindings).entries ↔ lastBinding? bindings name = some binding := by
    rw [← tableOf_get?, OrderedMap.get?, lookup_iff_mem (tableOf_distinct bindings)]
  constructor
  · intro member
    obtain ⟨⟨name, held⟩, inside, rfl⟩ := List.mem_map.mp member
    have last := (entry name).mp inside
    rw [(lastBinding?_mem last).2]
    exact last
  · intro last
    exact List.mem_map_of_mem (f := Prod.snd) ((entry _).mpr last)

/-- The table has a name of a module exactly if one of the name's bindings stands. -/
theorem tableOf_importsFrom (bindings : List ImportBinding) (modulePath importedName : String) :
    (tableOf bindings).importsFrom modulePath importedName = true ↔
      Imported bindings modulePath importedName := by
  rw [ImportTable.importsFrom, List.any_eq_true]
  constructor
  · rintro ⟨binding, member, named⟩
    obtain ⟨held, origin⟩ := List.mem_filter.mp member
    have last := tableOf_values.mp held
    exact ⟨binding, (lastBinding?_mem last).1, beq_iff_eq.mp origin, beq_iff_eq.mp named, last⟩
  · rintro ⟨binding, _, origin, named, last⟩
    refine ⟨binding, List.mem_filter.mpr ⟨tableOf_values.mpr last, ?_⟩, beq_iff_eq.mpr named⟩
    exact beq_iff_eq.mpr origin

/-- A statement that imports one name of a module. -/
def importOf (number : Nat) (name modulePath : String) : Node :=
  let span : Span := ⟨number, number + 6, by omega⟩
  ⟨"import_statement", number, span, ⟨[("import_clause", .child 0), ("source", .child 1)]⟩,
    [⟨"import_clause", number + 1, span, .empty,
      [⟨"named_imports", number + 2, span, .empty,
        [⟨"import_specifier", number + 3, span, ⟨[("name", .child 0)]⟩,
          [⟨"identifier", number + 4, span, ⟨[("text", .text name)]⟩, []⟩]⟩]⟩]⟩,
      ⟨"string", number + 5, span, ⟨[("value", .text modulePath)]⟩, []⟩]⟩

end AngularLint.Proofs.ImportHistory
