import AngularLint.Proofs.ImportHistory

/-! How long imports are known. The table of imports holds one binding for each local name, so a
name of a module is forgotten when the local names that stood for it have come to stand for
something else. Where no local name does, nothing that was imported is ever forgotten. -/

namespace AngularLint.Proofs.ReboundImports
open ImportHistory

/-- The node at a key has a name. -/
def Names (node : Node) (key name : String) : Prop :=
  ∃ child, node.childAt? [key] = some child ∧ nameText? child = some name

/-- A part of the clause of an import statement, with the module that the statement names. -/
structure Imports (statement : Node) (modulePath : String) (part : Node) : Prop where
  origin : statement.textAt? ["source", "value"] = some modulePath
  listed : ∃ clause, statement.childAt? ["import_clause"] = some clause ∧ part ∈ clause.children

/-- What an import statement binds: the default of a module, the module as a whole, or names of the
module, each under its own name or another. -/
inductive Binds (source : String) (statement : Node) : ImportBinding → Prop where
  | standard {modulePath : String} {part : Node} (imports : Imports statement modulePath part)
      (kind : part.kind = "identifier") :
      Binds source statement ⟨part.textIn source, "default", modulePath⟩
  | whole {modulePath name : String} {part : Node} (imports : Imports statement modulePath part)
      (kind : part.kind = "namespace_import")
      (named : part.textAt? ["identifier", "text"] = some name) :
      Binds source statement ⟨name, "*", modulePath⟩
  | named {modulePath name : String} {part specifier : Node}
      (imports : Imports statement modulePath part) (kind : part.kind = "named_imports")
      (listed : specifier ∈ part.childrenOfKind ["import_specifier"])
      (named : Names specifier "name" name)
      (plain : ∀ other, Names specifier "alias" other → other = "") :
      Binds source statement ⟨name, name, modulePath⟩
  | renamed {modulePath name other : String} {part specifier : Node}
      (imports : Imports statement modulePath part) (kind : part.kind = "named_imports")
      (listed : specifier ∈ part.childrenOfKind ["import_specifier"])
      (named : Names specifier "name" name) (renamed : Names specifier "alias" other)
      (nonempty : other ≠ "") :
      Binds source statement ⟨other, name, modulePath⟩

/-- No binding of the same local name comes later. -/
def Stands (bindings : List ImportBinding) (binding : ImportBinding) : Prop :=
  ∃ earlier later, bindings = earlier ++ binding :: later ∧
    ∀ other ∈ later, other.localName ≠ binding.localName

/-- The table after some import statements. -/
def recorded (source : String) (statements : List Node) : ImportTable :=
  statements.foldl (fun table statement => table.record source statement) .empty

theorem names_iff {node : Node} {key name : String} :
    (node.childAt? [key]).bind nameText? = some name ↔ Names node key name :=
  Option.bind_eq_some_iff

theorem specifierBinding?_iff {specifier : Node} {modulePath : String} {binding : ImportBinding} :
    specifierBinding? specifier modulePath = some binding ↔
      ∃ name, Names specifier "name" name ∧
        ((∀ other, Names specifier "alias" other → other = "") ∧
            binding = ⟨name, name, modulePath⟩ ∨
          ∃ other, Names specifier "alias" other ∧ other ≠ "" ∧
            binding = ⟨other, name, modulePath⟩) := by
  simp only [specifierBinding?, Option.map_eq_some_iff, ← names_iff]
  refine exists_congr fun name => and_congr_right fun _ => ?_
  cases (specifier.childAt? ["alias"]).bind nameText? with
  | none => simp [eq_comm]
  | some other =>
    by_cases empty : other = ""
    · simp [Option.filter_some, empty, @eq_comm _ binding]
    · simp [Option.filter_some, empty, @eq_comm _ binding]

theorem named_part_iff {part : Node} (kind : part.kind = "named_imports")
    {source modulePath : String} {binding : ImportBinding} :
    binding ∈ clausePartBindings source modulePath part ↔
      ∃ specifier ∈ part.childrenOfKind ["import_specifier"],
        specifierBinding? specifier modulePath = some binding := by
  rw [clausePartBindings, kind]
  exact List.mem_filterMap

theorem mem_importBindings {source : String} {statement : Node} {binding : ImportBinding} :
    binding ∈ importBindings source statement ↔
      ∃ modulePath part, Imports statement modulePath part ∧
        binding ∈ clausePartBindings source modulePath part := by
  constructor
  · intro member
    rw [importBindings] at member
    split at member
    next modulePath clause origin found =>
      obtain ⟨part, listed, bound⟩ := List.mem_flatMap.mp member
      exact ⟨modulePath, part, ⟨origin, clause, found, listed⟩, bound⟩
    · cases member
  · rintro ⟨modulePath, part, ⟨origin, clause, found, listed⟩, bound⟩
    rw [importBindings, origin, found]
    exact List.mem_flatMap.mpr ⟨part, listed, bound⟩

/-- The bindings of a statement are those that its parts call for. -/
theorem importBindings_iff {source : String} {statement : Node} {binding : ImportBinding} :
    binding ∈ importBindings source statement ↔ Binds source statement binding := by
  rw [mem_importBindings]
  constructor
  · rintro ⟨modulePath, part, imports, bound⟩
    simp only [clausePartBindings, beq_iff_eq] at bound
    split at bound
    next kind =>
      rw [List.mem_singleton.mp bound]
      exact .standard imports kind
    split at bound
    next kind =>
      obtain ⟨name, named, rfl⟩ := Option.map_eq_some_iff.mp (Option.mem_toList.mp bound)
      exact .whole imports kind named
    split at bound
    next kind =>
      obtain ⟨specifier, listed, found⟩ := List.mem_filterMap.mp bound
      obtain ⟨name, named, ⟨plain, rfl⟩ | ⟨other, renamed, nonempty, rfl⟩⟩ :=
        specifierBinding?_iff.mp found
      · exact .named imports kind listed named plain
      · exact .renamed imports kind listed named renamed nonempty
    · cases bound
  · intro binds
    cases binds with
    | standard imports kind =>
      exact ⟨_, _, imports, by simp [clausePartBindings, kind]⟩
    | whole imports kind named =>
      exact ⟨_, _, imports, by simp [clausePartBindings, kind, named]⟩
    | named imports kind listed named plain =>
      refine ⟨_, _, imports, (named_part_iff kind).mpr ⟨_, listed, ?_⟩⟩
      exact specifierBinding?_iff.mpr ⟨_, named, .inl ⟨plain, rfl⟩⟩
    | renamed imports kind listed named renamed nonempty =>
      refine ⟨_, _, imports, (named_part_iff kind).mpr ⟨_, listed, ?_⟩⟩
      exact specifierBinding?_iff.mpr ⟨_, named, .inr ⟨_, renamed, nonempty, rfl⟩⟩

theorem recorded_eq (source : String) (statements : List Node) :
    recorded source statements = tableOf (statements.flatMap (importBindings source)) := by
  induction statements using List.reverseRecOn with
  | nil => rfl
  | append_singleton statements statement ih =>
    rw [List.flatMap_append, List.flatMap_singleton, tableOf_append, ← ih, recorded,
      List.foldl_append]
    rfl

theorem mem_bindings {source : String} {statements : List Node} {binding : ImportBinding} :
    binding ∈ statements.flatMap (importBindings source) ↔
      ∃ statement ∈ statements, Binds source statement binding := by
  simp only [List.mem_flatMap, importBindings_iff]

theorem lastBinding?_append (first second : List ImportBinding) (name : String) :
    lastBinding? (first ++ second) name =
      (lastBinding? second name).or (lastBinding? first name) := by
  rw [lastBinding?, List.filter_append, List.getLast?_append]
  rfl

theorem stands_iff {bindings : List ImportBinding} {binding : ImportBinding} :
    Stands bindings binding ↔ lastBinding? bindings binding.localName = some binding := by
  constructor
  · rintro ⟨earlier, later, rfl, unbound⟩
    rw [List.append_cons, lastBinding?_append, lastBinding?_eq_none.mpr unbound, lastBinding?_snoc,
      if_pos rfl, Option.none_or]
  · intro last
    obtain ⟨earlier, whole⟩ := List.getLast?_eq_some_iff.mp last
    obtain ⟨before, after, rfl, _, rest⟩ := List.filter_eq_append_iff.mp whole
    obtain ⟨skipped, later, rfl, _, _, unbound⟩ := List.filter_eq_cons_iff.mp rest
    refine ⟨before ++ skipped, later, by simp, ?_⟩
    intro other member same
    exact List.filter_eq_nil_iff.mp unbound other member (decide_eq_true same)

theorem imported_iff_stands {bindings : List ImportBinding} {modulePath importedName : String} :
    Imported bindings modulePath importedName ↔
      ∃ binding, Stands bindings binding ∧ binding.modulePath = modulePath ∧
        binding.importedName = importedName := by
  simp only [stands_iff]
  constructor
  · rintro ⟨binding, _, origin, named, last⟩
    exact ⟨binding, last, origin, named⟩
  · rintro ⟨binding, last, origin, named⟩
    exact ⟨binding, (lastBinding?_mem last).1, origin, named, last⟩

/-- What stood for a name and does no longer was bound again, last to something else. -/
theorem rebound_of_forgotten {earlier later : List ImportBinding} {binding : ImportBinding}
    (stood : Stands earlier binding)
    (forgotten : ¬ Imported (earlier ++ later) binding.modulePath binding.importedName) :
    ∃ other ∈ later, Stands (earlier ++ later) other ∧ other.localName = binding.localName ∧
      ¬ (other.modulePath = binding.modulePath ∧ other.importedName = binding.importedName) := by
  rw [imported_iff_stands] at forgotten
  have last := lastBinding?_append earlier later binding.localName
  rw [stands_iff.mp stood] at last
  cases found : lastBinding? later binding.localName with
  | none =>
    rw [found, Option.none_or] at last
    exact absurd ⟨binding, stands_iff.mpr last, rfl, rfl⟩ forgotten
  | some other =>
    obtain ⟨member, same⟩ := lastBinding?_mem found
    rw [found, Option.some_or, ← same] at last
    have stands := stands_iff.mpr last
    exact ⟨other, member, stands, same, fun named => forgotten ⟨other, stands, named⟩⟩

/-- A name of a module is known exactly as long as a binding of it stands. A name that is forgotten
was bound before, and each local name that stood for it was bound to something else. If the
statements bind no local name to two things, then whatever they bind is known. -/
theorem known_until_rebound (source : String) (statements : List Node)
    (modulePath importedName : String) :
    let bindings := statements.flatMap (importBindings source)
    (∀ binding, binding ∈ bindings ↔ ∃ statement ∈ statements, Binds source statement binding) ∧
      ((recorded source statements).importsFrom modulePath importedName = true ↔
        ∃ binding, Stands bindings binding ∧ binding.modulePath = modulePath ∧
          binding.importedName = importedName) ∧
      (∀ more,
        (recorded source (statements ++ more)).importsFrom modulePath importedName = false →
        ∀ binding, Stands bindings binding → binding.modulePath = modulePath →
          binding.importedName = importedName →
          ∃ statement ∈ more, ∃ other, Binds source statement other ∧
            other.localName = binding.localName ∧
            ¬ (other.modulePath = modulePath ∧ other.importedName = importedName)) ∧
      ((∀ first ∈ bindings, ∀ second ∈ bindings,
          first.localName = second.localName → first = second) →
        ((recorded source statements).importsFrom modulePath importedName = true ↔
          ∃ statement ∈ statements, ∃ binding, Binds source statement binding ∧
            binding.modulePath = modulePath ∧ binding.importedName = importedName)) := by
  intro bindings
  refine ⟨fun _ => mem_bindings, ?_, ?_, ?_⟩
  · rw [recorded_eq, tableOf_importsFrom, imported_iff_stands]
  · rintro more forgotten binding stood rfl rfl
    rw [recorded_eq, List.flatMap_append, ← Bool.not_eq_true, tableOf_importsFrom] at forgotten
    obtain ⟨other, member, _, same, different⟩ := rebound_of_forgotten stood forgotten
    obtain ⟨statement, passed, binds⟩ := mem_bindings.mp member
    exact ⟨statement, passed, other, binds, same, different⟩
  · intro unambiguous
    rw [recorded_eq, tableOf_importsFrom]
    constructor
    · intro imported
      obtain ⟨binding, member, named⟩ := imported.bound
      obtain ⟨statement, passed, binds⟩ := mem_bindings.mp member
      exact ⟨statement, passed, binding, binds, named⟩
    · rintro ⟨statement, passed, binding, binds, named⟩
      have member := mem_bindings.mpr ⟨statement, passed, binds⟩
      exact imported_of_unambiguous unambiguous ⟨binding, member, named⟩

/-- An import of the same local name from elsewhere makes the first import forgotten. -/
theorem rebound_import_forgotten :
    let core := importOf 1 "inject" "@angular/core"
    let other := importOf 8 "inject" "./inject"
    Binds "" core ⟨"inject", "inject", "@angular/core"⟩ ∧
      (recorded "" [core]).importsFrom "@angular/core" "inject" = true ∧
      (recorded "" [core, other]).importsFrom "@angular/core" "inject" = false := by
  refine ⟨importBindings_iff.mp ?_, ?_, ?_⟩ <;> decide +kernel

end AngularLint.Proofs.ReboundImports
