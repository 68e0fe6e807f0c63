import AngularLint.Proofs.Decorations
import AngularLint.Proofs.ImportHistory
import AngularLint.Proofs.Responses

/-! Which inputs of components are reported, and when a file is reported for the import that it
lacks. The import may stand anywhere in the file, also below the inputs. -/

namespace AngularLint.Proofs.DecoratedInputs
open AngularLint.Angular AngularLint.Rules ClassFrames ClassWalk Decorations EngineTrace
open ImportHistory Reactions Responses

/-- A field of a component, with an `@Input()` decorator. -/
def DecoratedInput (cursor : Cursor) : Prop :=
  cursor.node.kind ∈ SignalInputs.fieldKinds ∧ InClass (Carries · "Component") cursor ∧
    Decorated cursor "Input"

instance : DecidablePred DecoratedInput := fun _ =>
  inferInstanceAs (Decidable (_ ∧ _ ∧ _))

/-- The handlers of the rule besides those that keep the classes. -/
def handlers (source : String) : List (String × Handler (Memory Nat)) :=
  [("import_statement", recordImports source), (endEvent, .stateless SignalInputs.finish)] ++
    SignalInputs.fieldKinds.map fun kind => (kind, SignalInputs.checkField)

def countIn (cursors : List Cursor) : Nat :=
  cursors.countP fun cursor => DecoratedInput cursor

def inputActs (cursor : Cursor) : List Act :=
  if DecoratedInput cursor then [.note cursor.node.span "useSignalInput" []] else []

def finalActs (source : String) (root : Node) (cursors : List Cursor) : List Act :=
  SignalInputs.finish (.ofRoot root) ⟨tableAfter source cursors, [], countIn cursors⟩

theorem isDecoratedInput_iff {root : Node} {cursor : Cursor} (member : cursor ∈ root.cursors)
    (isField : cursor.node.kind ∈ SignalInputs.fieldKinds) :
    SignalInputs.isDecoratedInput cursor (frames cursor.ancestors) = true ↔
      DecoratedInput cursor := by
  have component : markOf? "Component" = some "is-component" := rfl
  rw [SignalInputs.isDecoratedInput, Bool.and_eq_true, inClass_iff, hasDecorator_iff member]
  simp only [marked_iff component, DecoratedInput, isField, true_and]

theorem countIn_snoc (cursors : List Cursor) (cursor : Cursor) :
    countIn (cursors ++ [cursor]) = countIn cursors + if DecoratedInput cursor then 1 else 0 := by
  simp [countIn, List.countP_append, List.countP_singleton]

theorem remembering (source : String) (root : Node) :
    Remembering (fun _ _ _ => []) (handlers source) root (tableAfter source) countIn
      (fun _ => inputActs) (finalActs source root) where
  opening := by
    intro earlier cursor _ isClass
    have others : ∀ kind ∈ classKinds,
        kind ≠ "import_statement" ∧ kind ∉ SignalInputs.fieldKinds := by decide
    obtain ⟨noImport, noField⟩ := others _ isClass
    have noInput : ¬ DecoratedInput cursor := fun input => noField input.1
    rw [tableAfter_other noImport, countIn_snoc, inputActs, if_neg noInput, if_neg noInput]
    exact ⟨rfl, rfl, rfl⟩
  entering := by
    intro earlier cursor member _
    rw [countIn_snoc]
    by_cases isImport : cursor.node.kind = "import_statement"
    · have noInput : ¬ DecoratedInput cursor := by
        intro input
        have listed := input.1
        rw [isImport] at listed
        exact absurd listed (by decide)
      have called : (handlers source).lookup cursor.node.kind = some (recordImports source) := by
        rw [isImport]
        rfl
      rw [respond_named (by rw [isImport]; decide) called, tableAfter_import isImport, inputActs,
        if_neg noInput, if_neg noInput]
      rfl
    · rw [tableAfter_other isImport]
      by_cases isField : cursor.node.kind ∈ SignalInputs.fieldKinds
      · have named : ∀ kind ∈ SignalInputs.fieldKinds, kind ≠ endEvent ∧
            (handlers source).lookup kind = some SignalInputs.checkField := by
          simp only [SignalInputs.fieldKinds, List.forall_mem_cons]
          exact ⟨⟨by decide, rfl⟩, ⟨by decide, rfl⟩, by simp⟩
        obtain ⟨unfinished, called⟩ := named _ isField
        rw [respond_named unfinished called, SignalInputs.checkField]
        simp only [isDecoratedInput_iff member isField, inputActs]
        split <;> rfl
      · have noInput : ¬ DecoratedInput cursor := fun input => isField input.1
        rw [respond_silent, inputActs, if_neg noInput, if_neg noInput]
        · rfl
        · simp only [handlers, List.forall_mem_append, List.forall_mem_cons, List.forall_mem_map]
          refine ⟨⟨fun same => absurd same.symm isImport, fun _ => trivial, by simp⟩, ?_⟩
          exact fun kind listed same => absurd (same ▸ listed) isField
  finishing := fun _ => rfl

theorem countIn_eq_zero (cursors : List Cursor) :
    countIn cursors = 0 ↔ (cursors.filter fun cursor => DecoratedInput cursor) = [] := by
  rw [countIn, List.countP_eq_length_filter, List.length_eq_zero_iff]

theorem starts (settings : SignalInputs.rule.Settings) (file : SourceFile) (root : Node) :
    (SignalInputs.rule.checker settings).start ⟨file, root⟩ =
      ⟨[], ⟨tableAfter file.text [], [], countIn []⟩,
        .ofNamed (trackClasses (fun _ _ _ => []) ++ handlers file.text)⟩ := by
  change Setup.mk [] (Memory.fresh 0) (.ofNamed ((_ ++ _) ++ _)) = _
  rw [List.append_assoc]
  rfl

section Reported

variable {engine : Engine} {severity : Severity} {file : SourceFile} {root : Node}
  (settings : SignalInputs.rule.Settings)

theorem perform_inputActs (cursor : Cursor) :
    (ActiveRule.reporter
        ⟨SignalInputs.rule, severity, SignalInputs.rule.checker settings⟩ file).perform
        (inputActs cursor) =
      (if DecoratedInput cursor then
        [noted SignalInputs.rule severity cursor.node.span "useSignalInput" []] else [], none) := by
  rw [inputActs]
  split
  · exact perform_note rfl _ _
  · rfl

theorem perform_finalActs (cursors : List Cursor) :
    (ActiveRule.reporter
        ⟨SignalInputs.rule, severity, SignalInputs.rule.checker settings⟩ file).perform
        (finalActs file.text root cursors) =
      (if (cursors.filter fun cursor => DecoratedInput cursor) ≠ [] ∧
          ¬ Imported (bindingsIn file.text cursors) coreModule "input" then
        [noted SignalInputs.rule severity root.span "missingInputImport" []] else [], none) := by
  rw [finalActs, SignalInputs.finish]
  simp only [Bool.and_eq_true, bne_iff_ne, Bool.not_eq_true', ← Bool.not_eq_true, tableAfter,
    tableOf_importsFrom, ne_eq, countIn_eq_zero]
  split
  · exact perform_note rfl _ _
  · rfl

/-- The decorated inputs are reported in the order of the tree, each once, and behind them the file
if it has such inputs and nowhere imports what should replace them. -/
theorem decorated_inputs_reported (distinct : engine.ruleIds.Nodup)
    (activated : ⟨SignalInputs.rule, severity, SignalInputs.rule.checker settings⟩ ∈ engine.rules)
    (rooted : file.root? = some root) :
    let inputs := root.cursors.filter fun cursor => DecoratedInput cursor
    (engine.run file).forRule SignalInputs.rule.id =
        inputs.map (fun input =>
          noted SignalInputs.rule severity input.node.span "useSignalInput" []) ++
          (if inputs ≠ [] ∧ ¬ Imported (bindingsIn file.text root.cursors) coreModule "input" then
            [noted SignalInputs.rule severity root.span "missingInputImport" []]
          else []) ∧
      (engine.run file).faults.filter (·.rule == SignalInputs.rule.id) = [] := by
  intro inputs
  have listed : (["import_statement", endEvent] ++ SignalInputs.fieldKinds).Sublist otherNames := by
    decide
  obtain ⟨found, clean⟩ := run_in_classes distinct activated rooted (starts settings file root)
    (ClassKeeper.signalInputs.starts ⟨file, root⟩) (remembering file.text root)
    (beside_of_listed listed)
    (fun place _ => perform_inputActs settings place.2) (perform_finalActs settings root.cursors)
  refine ⟨found.trans ?_, clean⟩
  have places := flatMap_withEarlier root.cursors fun cursor => if DecoratedInput cursor then
    [noted SignalInputs.rule severity cursor.node.span "useSignalInput" []] else []
  rw [places, flatMap_chosen, ← List.map_eq_flatMap]

end Reported

/-- A field with a decorator of its own. -/
def ownInput : Node :=
  ⟨"public_field_definition", 7, ⟨21, 34, by decide⟩, ⟨[("decorator", .child 0)]⟩, [callOf 8 "Input"]⟩

/-- A field behind a decorator. -/
def laterInput : Node :=
  ⟨"field_definition", 14, ⟨43, 50, by decide⟩, .empty, []⟩

/-- A component with two inputs, above an import of the decorator. -/
def componentFile : Node :=
  ⟨"program", 1, ⟨1, 90, by decide⟩, .empty,
    [classOf "Component" [ownInput, callOf 11 "Input", laterInput], importOf 15 "Input" coreModule]⟩

theorem component_inputs_reported :
    let engine : Engine := ⟨[⟨SignalInputs.rule, .error, SignalInputs.rule.checker ()⟩]⟩
    let file : SourceFile := ⟨"a.ts", "", some componentFile, false⟩
    engine.ruleIds.Nodup ∧
      (engine.run file).forRule SignalInputs.rule.id =
        [noted SignalInputs.rule .error ownInput.span "useSignalInput" [],
          noted SignalInputs.rule .error laterInput.span "useSignalInput" [],
          noted SignalInputs.rule .error componentFile.span "missingInputImport" []] := by
  intro engine file
  have distinct : engine.ruleIds.Nodup := by decide
  have rooted : file.root? = some componentFile := rfl
  obtain ⟨found, _⟩ := decorated_inputs_reported () distinct List.mem_cons_self rooted
  refine ⟨distinct, found.trans ?_⟩
  rw [Places.cursors_eq]
  rfl

end AngularLint.Proofs.DecoratedInputs
