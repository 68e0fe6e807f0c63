import AngularLint.Proofs.FeatureFolders
import AngularLint.Proofs.Responses

/-! Imports from one feature into another. Each import statement is judged by itself, from the name
of the file and the path that the statement names. A path that climbs out of folders and then goes
down again stays in its feature as long as it does not climb above it; one step further up, the
first folder on the way down is the feature that it ends in. -/

namespace AngularLint.Proofs.FeatureCrossings
open AngularLint.Angular AngularLint.ModulePath AngularLint.Rules.FeatureIsolation AngularLint.Text
open EngineTrace FeatureFolders NamedTables Reactions Responses RuleTrace SlashedPaths

/-- The path that an import statement names. -/
def importPath? (statement : Node) : Option String :=
  stringValue? (statement.childAt? ["source"])

/-- The feature of a file and another one that an import in it leads to. -/
def crossing? (settings : Settings) (filename path : String) : Option (String × String) :=
  if isLocal settings path then
    (featureOf? settings filename).bind fun current =>
      ((featureOf? settings (resolve settings filename path)).filter (· ≠ current)).map
        fun imported => (current, imported)
  else none

/-- A message and its data. -/
abbrev Note := String × List (String × String)

def crossingNote (crossed : String × String) : Note :=
  ("crossFeatureImport", [("currentFeature", crossed.1), ("importedFeature", crossed.2)])

def sharedNotes (settings : Settings) (current path : String) : List Note :=
  if isSharedImport settings path && isArchitectural path then
    ("importFromShared", [("feature", current), ("service", (serviceName? path).getD "module")]) ::
      if settings.reportSharedOveruse then
        ((sharedModule? path).map fun name => ("sharedOveruse", [("module", name)])).toList
      else []
  else []

/-- All that is said of an import statement. -/
def notesOn (settings : Settings) (filename : String) (statement : Node) : List Note :=
  match featureOf? settings filename, importPath? statement with
  | some current, some path =>
    if isLocal settings path then
      ((crossing? settings filename path).map crossingNote).toList ++
        sharedNotes settings current path
    else []
  | _, _ => []

def actOf (span : Span) (note : Note) : Act :=
  .note span note.1 note.2

theorem checkPath_eq (settings : Settings) {filename current path : String}
    (here : featureOf? settings filename = some current) (near : isLocal settings path = true)
    (span : Span) :
    checkPath settings filename current path span =
      (((crossing? settings filename path).map crossingNote).toList ++
        sharedNotes settings current path).map (actOf span) := by
  rw [checkPath, crossing?, if_pos near, here, Option.bind_some, List.map_append, List.append_assoc]
  congr 1
  · cases featureOf? settings (resolve settings filename path) with
    | none => rfl
    | some imported =>
      by_cases same : imported = current
      · simp [same]
      · simp [same, Option.filter_some, crossingNote, actOf]
  · rw [sharedNotes]
    by_cases shared : (isSharedImport settings path && isArchitectural path) = true
    · cases settings.reportSharedOveruse <;> cases sharedModule? path <;> simp [shared, actOf]
    · simp [shared]

theorem check_eq (settings : Settings) (filename : String) (statement : Node) :
    check settings filename statement =
      (notesOn settings filename statement).map (actOf statement.span) := by
  have named : stringValue? (statement.childAt? ["source"]) = importPath? statement := rfl
  rw [check, notesOn, named]
  cases here : featureOf? settings filename with
  | none => rfl
  | some current =>
    cases importPath? statement with
    | none => rfl
    | some path =>
      by_cases near : isLocal settings path = true
      · simp only [near, if_true]
        exact checkPath_eq settings here near statement.span
      · simp [near]

theorem sharedNotes_known (settings : Settings) (current path : String) :
    ∀ note ∈ sharedNotes settings current path,
      note.1 = "importFromShared" ∨ note.1 = "sharedOveruse" := by
  rw [sharedNotes]
  split
  · rw [List.forall_mem_cons]
    refine ⟨.inl rfl, ?_⟩
    intro note member
    obtain ⟨name, _, rfl⟩ := Option.map_eq_some_iff.mp
      (Option.mem_toList.mp (List.mem_ite_nil_right.mp member).2)
    exact .inr rfl
  · simp

theorem notesOn_known (settings : Settings) (filename : String) (statement : Node) :
    ∀ note ∈ notesOn settings filename statement, rule.messages.contains note.1 = true := by
  rw [notesOn]
  split
  · split
    · rw [List.forall_mem_append]
      constructor
      · intro note member
        obtain ⟨crossed, _, rfl⟩ := Option.map_eq_some_iff.mp (Option.mem_toList.mp member)
        rfl
      · intro note member
        rcases sharedNotes_known settings _ _ note member with named | named
        · rw [named]; rfl
        · rw [named]; rfl
    · simp
  · simp

/-- A note as it stands in a report. -/
def reportOf (severity : Severity) (span : Span) (note : Note) : Diagnostic :=
  noted rule severity span note.1 note.2

theorem perform_notes {settings : Settings} {severity : Severity} {file : SourceFile} (span : Span)
    {notes : List Note} (known : ∀ note ∈ notes, rule.messages.contains note.1 = true) :
    (ActiveRule.reporter ⟨rule, severity, rule.checker settings⟩ file).perform
        (notes.map (actOf span)) =
      (notes.map (reportOf severity span), none) := by
  rw [List.map_eq_flatMap, List.map_eq_flatMap]
  apply perform_each
  intro note member
  exact perform_note (known note member) span note.2

/-- The findings on a node: import statements have notes, and nothing else has. -/
def reportsOn (settings : Settings) (severity : Severity) (filename : String) (node : Node) :
    List Diagnostic :=
  if node.kind = "import_statement" then
    (notesOn settings filename node).map (reportOf severity node.span)
  else []

def handlers (settings : Settings) (filename : String) : List (String × Handler Unit) :=
  [("import_statement", .stateless fun cursor _ => check settings filename cursor.node)]

def actsOn (settings : Settings) (filename : String) (node : Node) : List Act :=
  if node.kind = "import_statement" then check settings filename node else []

theorem respond_entering (settings : Settings) (filename : String) (cursor : Cursor) :
    respond (handlers settings filename) (.enter, cursor) () =
      ((), actsOn settings filename cursor.node) := by
  rw [actsOn]
  split
  next isImport =>
    rw [respond_named (by rw [isImport]; decide) (by rw [isImport]; rfl)]
    rfl
  next other =>
    apply respond_silent
    rw [handlers, List.forall_mem_singleton]
    exact fun same => absurd same.symm other

theorem perform_actsOn {settings : Settings} {severity : Severity} {file : SourceFile}
    (filename : String) (node : Node) :
    (ActiveRule.reporter ⟨rule, severity, rule.checker settings⟩ file).perform
        (actsOn settings filename node) = (reportsOn settings severity filename node, none) := by
  rw [actsOn, reportsOn]
  split
  · rw [check_eq]
    exact perform_notes node.span (notesOn_known settings filename node)
  · rfl

section Running

variable {engine : Engine} (distinct : engine.ruleIds.Nodup) (settings : Settings)
  {severity : Severity} (activated : ⟨rule, severity, rule.checker settings⟩ ∈ engine.rules)
  {file : SourceFile} {root : Node} (rooted : file.root? = some root)
include distinct activated rooted

theorem run_notes :
    (engine.run file).forRule rule.id =
        root.cursors.flatMap fun cursor =>
          reportsOn settings severity (withSlashes file.filename) cursor.node := by
  have staying : Staying ["import_statement"] := ⟨⟨by decide, by decide⟩, by decide⟩
  obtain ⟨found, _⟩ := run_named distinct activated rooted rfl
    (fun _ cursor _ => respond_entering settings (withSlashes file.filename) cursor) (fun _ => rfl)
    staying (fun place _ => perform_actsOn _ place.2.node) rfl
  rw [List.append_nil] at found
  exact found.trans (flatMap_withEarlier root.cursors fun cursor =>
    reportsOn settings severity (withSlashes file.filename) cursor.node)

end Running

/-- The findings of a report about imports from one feature into another. -/
def crossings (report : Report) : List Diagnostic :=
  (report.forRule rule.id).filter fun finding => finding.messageId = "crossFeatureImport"

def crossingReport? (settings : Settings) (severity : Severity) (filename : String) (node : Node) :
    Option Diagnostic :=
  if node.kind = "import_statement" then
    ((importPath? node).bind (crossing? settings filename)).map fun crossed =>
      reportOf severity node.span (crossingNote crossed)
  else none

theorem sharedNotes_filter (settings : Settings) (severity : Severity) (span : Span)
    (current path : String) :
    ((sharedNotes settings current path).map (reportOf severity span)).filter
      (fun finding => finding.messageId = "crossFeatureImport") = [] := by
  rw [List.filter_eq_nil_iff, List.forall_mem_map]
  intro note member
  have other : note.1 ≠ "crossFeatureImport" := by
    rcases sharedNotes_known settings current path note member with named | named
    · rw [named]; decide
    · rw [named]; decide
  simp [reportOf, noted, other]

theorem reportsOn_filter (settings : Settings) (severity : Severity) (filename : String)
    (node : Node) :
    (reportsOn settings severity filename node).filter
        (fun finding => finding.messageId = "crossFeatureImport") =
      (crossingReport? settings severity filename node).toList := by
  rw [reportsOn, crossingReport?]
  split
  · rw [notesOn]
    cases here : featureOf? settings filename with
    | none => cases importPath? node <;> simp [crossing?, here]
    | some current =>
      cases importPath? node with
      | none => rfl
      | some path =>
        by_cases near : isLocal settings path = true
        · simp only [near, if_true, List.map_append, List.filter_append, sharedNotes_filter,
            List.append_nil, Option.bind_some]
          cases crossing? settings filename path with
          | none => rfl
          | some crossed => simp [reportOf, noted, crossingNote]
        · simp [near, crossing?]
  · rfl

theorem crossings_run {engine : Engine} (distinct : engine.ruleIds.Nodup) (settings : Settings)
    {severity : Severity} (activated : ⟨rule, severity, rule.checker settings⟩ ∈ engine.rules)
    {file : SourceFile} {root : Node} (rooted : file.root? = some root) :
    crossings (engine.run file) = root.cursors.filterMap fun cursor =>
      crossingReport? settings severity (withSlashes file.filename) cursor.node := by
  rw [crossings, run_notes distinct settings activated rooted, List.filter_flatMap,
    List.filterMap_eq_flatMap_toList]
  exact List.flatMap_congr fun cursor _ => reportsOn_filter settings severity _ cursor.node

/-- A file in a feature: the root, the feature, the folders below it and the name. -/
structure FeatureFile where
  root : PlainPath
  feature : String
  folders : List String
  name : String
  ordinary : ∀ part ∈ feature :: folders, Ordinary part
  slashless : '/' ∉ name.toList
  forward : '\\' ∉ name.toList

namespace FeatureFile

variable (file : FeatureFile)

/-- The folder that holds the file. -/
def folder : PlainPath where
  parts := file.root.parts ++ file.feature :: file.folders
  filled := by simp
  ordinary := List.forall_mem_append.mpr ⟨file.root.ordinary, file.ordinary⟩

def path : String :=
  join "/" (file.root.parts ++ file.feature :: file.folders ++ [file.name])

theorem path_eq : file.path = file.folder.text ++ "/" ++ file.name := by
  rw [path, join_append (by simp) (by simp)]
  rfl

theorem directory_path : directory file.path = file.folder.text := by
  rw [path_eq, directory_slash file.folder.solid file.slashless]

theorem splitOn_path :
    splitOn file.path '/' = file.root.parts ++ file.feature :: (file.folders ++ [file.name]) := by
  rw [path_eq, splitOn_slash, file.folder.splitOn_text, splitOn_single file.slashless, folder,
    List.append_assoc]
  rfl

theorem path_forward : '\\' ∉ file.path.toList := by
  intro member
  rcases mem_join member with slash | ⟨part, inside, there⟩
  · exact absurd slash (by decide)
  · rcases List.mem_append.mp inside with folder | name
    · exact (file.folder.ordinary part folder).forward there
    · exact file.forward (List.mem_singleton.mp name ▸ there)

end FeatureFile

/-- Some steps up, and then a way down. -/
structure Climb where
  up : Nat
  down : PlainPath

namespace Climb

variable (climb : Climb)

def steps : List String :=
  if climb.up = 0 then ["."] else List.replicate climb.up ".."

def path : String :=
  join "/" (climb.steps ++ climb.down.parts)

theorem steps_first : ∃ step rest, climb.steps = step :: rest ∧ step.toList.head? = some '.' := by
  rw [steps]
  split
  · exact ⟨".", [], rfl, rfl⟩
  next more =>
    obtain ⟨count, up⟩ := Nat.exists_eq_succ_of_ne_zero more
    rw [up]
    exact ⟨"..", List.replicate count "..", rfl, rfl⟩

theorem path_first : climb.path.toList.head? = some '.' := by
  obtain ⟨step, rest, split, first⟩ := climb.steps_first
  obtain ⟨others, spelled⟩ := List.head?_eq_some_iff.mp first
  rw [path, split, List.cons_append, join, String.toList_intercalate, List.map_cons, spelled]
  cases (rest ++ climb.down.parts).map String.toList with
  | nil => rfl
  | cons next more => simp [List.intercalate_cons_cons]

theorem splitOn_path : splitOn climb.path '/' = climb.steps ++ climb.down.parts := by
  apply splitOn_join (by simp [climb.down.filled])
  rw [List.forall_mem_append]
  constructor
  · rw [steps]
    split
    · decide
    · intro step member
      rw [List.eq_of_mem_replicate member]
      decide
  · exact fun part member => (climb.down.ordinary part member).slashless

theorem foldl_steps {above held : List String} (ordinary : ∀ part ∈ above, Ordinary part)
    (level : above.length = climb.up) :
    climb.steps.foldl (addPart false) (above ++ held) = held := by
  rw [steps]
  split
  next none =>
    rw [none, List.length_eq_zero_iff] at level
    rw [level]
    rfl
  next => rw [← level, foldl_up ordinary]

/-- As many folders are left as there are steps up, and the way down goes on from there. -/
theorem reduced_steps {kept above : List String} (ordinary : ∀ part ∈ kept ++ above, Ordinary part)
    (level : above.length = climb.up) :
    reduced (kept ++ above ++ (climb.steps ++ climb.down.parts)) = kept ++ climb.down.parts := by
  have back : ∀ part ∈ above.reverse, Ordinary part := fun part member =>
    ordinary part (List.mem_append_right _ (List.mem_reverse.mp member))
  have up : climb.steps.foldl (addPart false) (above.reverse ++ kept.reverse) = kept.reverse :=
    climb.foldl_steps back (by rw [List.length_reverse, level])
  rw [reduced, List.foldl_append, foldl_ordinary ordinary, List.foldl_append, List.append_nil,
    List.reverse_append, up, foldl_ordinary climb.down.ordinary, List.reverse_append,
    List.reverse_reverse, List.reverse_reverse]

end Climb

theorem withSlashes_forward {path : String} (forward : '\\' ∉ path.toList) :
    withSlashes path = path := by
  apply String.ext
  rw [withSlashes, String.toList_map, List.map_congr_left (g := id), List.map_id]
  intro c member
  have other : (c == '\\') = false := by
    rw [beq_eq_false_iff_ne]
    rintro rfl
    exact forward member
  rw [other]
  rfl

section Climbing

variable {settings : Settings} {file : FeatureFile} {climb : Climb}

theorem climb_isLocal : isLocal settings climb.path = true := by
  obtain ⟨rest, split⟩ := List.head?_eq_some_iff.mp climb.path_first
  simp [isLocal, startsWith, split]

theorem resolve_climb {kept above : List String} (split : file.folder.parts = kept ++ above)
    (level : above.length = climb.up) :
    splitOn (resolve settings file.path climb.path) '/' = kept ++ climb.down.parts := by
  have ordinary : ∀ part ∈ kept ++ above, Ordinary part := split ▸ file.folder.ordinary
  let target : PlainPath := {
    parts := kept ++ climb.down.parts
    filled := by simp [climb.down.filled]
    ordinary := List.forall_mem_append.mpr
      ⟨(List.forall_mem_append.mp ordinary).1, climb.down.ordinary⟩ }
  obtain ⟨rest, text⟩ := List.head?_eq_some_iff.mp climb.path_first
  have near : startsWith climb.path "." = true := by simp [startsWith, text]
  have relative : climb.path.toList.head? ≠ some '/' := by simp [text]
  have left : reduced (file.folder.parts ++ splitOn climb.path '/') = target.parts := by
    rw [climb.splitOn_path, split, climb.reduced_steps ordinary level]
  rw [resolve, if_pos near, file.directory_path, append_relative file.folder.solid relative,
    file.folder.normalize_below left target.text_ne_empty]
  exact target.splitOn_text

variable (rooted : settings.featureRoot = file.root.text)
  (own : file.feature ∉ settings.sharedPaths)
include rooted own

theorem feature_of_file : featureOf? settings file.path = some file.feature := by
  rw [featureOf?_iff rooted]
  exact ⟨own, folderOf?_front file.splitOn_path (file.ordinary _ List.mem_cons_self).filled
    (by simp)⟩

theorem crossing?_climb :
    crossing? settings file.path climb.path =
      ((featureOf? settings (resolve settings file.path climb.path)).filter (· ≠ file.feature)).map
        fun imported => (file.feature, imported) := by
  rw [crossing?, if_pos climb_isLocal, feature_of_file rooted own, Option.bind_some]

theorem climb_within (low : climb.up ≤ file.folders.length) :
    crossing? settings file.path climb.path = none := by
  let left := file.folders.length - climb.up
  have split : file.folder.parts =
      (file.root.parts ++ file.feature :: file.folders.take left) ++ file.folders.drop left := by
    rw [List.append_assoc, List.cons_append, List.take_append_drop]
    rfl
  have level : (file.folders.drop left).length = climb.up := by
    rw [List.length_drop]
    omega
  have target : splitOn (resolve settings file.path climb.path) '/' =
      file.root.parts ++ file.feature :: (file.folders.take left ++ climb.down.parts) := by
    rw [resolve_climb split level, List.append_assoc, List.cons_append]
  have same : featureOf? settings (resolve settings file.path climb.path) = some file.feature := by
    rw [featureOf?_iff rooted]
    exact ⟨own, folderOf?_front target (file.ordinary _ List.mem_cons_self).filled
      (by simp [climb.down.filled])⟩
  rw [crossing?_climb rooted own, same]
  simp

theorem climb_above (high : climb.up = file.folders.length + 1) :
    crossing? settings file.path climb.path =
      if 2 ≤ climb.down.parts.length ∧ climb.down.first ≠ file.feature ∧
          climb.down.first ∉ settings.sharedPaths then
        some (file.feature, climb.down.first)
      else none := by
  have target : splitOn (resolve settings file.path climb.path) '/' =
      file.root.parts ++ climb.down.parts :=
    resolve_climb (rfl : file.folder.parts = file.root.parts ++ file.feature :: file.folders)
      (by simp [high])
  rw [crossing?_climb rooted own, featureOf?_eq rooted]
  by_cases long : 2 ≤ climb.down.parts.length
  · have further : climb.down.parts.tail ≠ [] := by
      rw [ne_eq, ← List.length_eq_zero_iff, List.length_tail]
      omega
    rw [climb.down.parts_eq] at target
    rw [folderOf?_front target (climb.down.ordinary _ (List.head_mem _)).filled further]
    by_cases other : climb.down.first = file.feature <;>
      by_cases shared : climb.down.first ∈ settings.sharedPaths <;> simp [long, other, shared]
  · have short : (splitOn (resolve settings file.path climb.path) '/').length ≤
        file.root.parts.length + 1 := by
      rw [target, List.length_append]
      omega
    rw [folderOf?_short short, if_neg fun all => long all.1]
    rfl

end Climbing

/-- Imports that climb in a file of a feature: as long as they stay below the feature nothing is
reported, and one step further up the first folder on the way down counts, unless it is the last
part of the path, the feature itself or shared. -/
theorem climbing_imports_reported {engine : Engine} (distinct : engine.ruleIds.Nodup)
    (settings : Settings) {severity : Severity}
    (activated : ⟨rule, severity, rule.checker settings⟩ ∈ engine.rules) {source : SourceFile}
    {root : Node} (parsed : source.root? = some root) (file : FeatureFile)
    (named : source.filename = file.path) (rooted : settings.featureRoot = file.root.text)
    (own : file.feature ∉ settings.sharedPaths) :
    crossings (engine.run source) = root.cursors.filterMap (fun cursor =>
        crossingReport? settings severity source.filename cursor.node) ∧
      ∀ statement climb, statement.kind = "import_statement" →
        importPath? statement = some (Climb.path climb) →
        (climb.up ≤ file.folders.length →
          crossingReport? settings severity source.filename statement = none) ∧
        (climb.up = file.folders.length + 1 →
          crossingReport? settings severity source.filename statement =
            if 2 ≤ climb.down.parts.length ∧ climb.down.first ≠ file.feature ∧
                climb.down.first ∉ settings.sharedPaths then
              some (noted rule severity statement.span "crossFeatureImport"
                [("currentFeature", file.feature), ("importedFeature", climb.down.first)])
            else none) := by
  have forward : withSlashes source.filename = source.filename := by
    rw [named]
    exact withSlashes_forward file.path_forward
  refine ⟨?_, ?_⟩
  · rw [crossings_run distinct settings activated parsed, forward]
  · intro statement climb isImport imports
    rw [crossingReport?, if_pos isImport, imports, named, Option.bind_some]
    constructor
    · intro low
      rw [climb_within rooted own low, Option.map_none]
    · intro high
      rw [climb_above rooted own high]
      split <;> rfl

/-- A file two folders below the root of the features. -/
def cartFile : FeatureFile :=
  ⟨appRoot, "shop", ["cart"], "a.ts", by decide +kernel, by decide +kernel, by decide +kernel⟩

/-- Two steps up lead to another feature, and one to a file of the same. -/
def cartProgram : Node :=
  ⟨"program", 1, ⟨1, 42, by decide⟩, .empty,
    [ImportHistory.importOf 2 "A" "../../orders/b", ImportHistory.importOf 12 "B" "../item"]⟩

theorem cart_imports_reported :
    let engine : Engine := ⟨[⟨rule, .error, rule.checker Settings.default⟩]⟩
    let source : SourceFile := ⟨"src/app/shop/cart/a.ts", "", some cartProgram, false⟩
    let judged := crossingReport? Settings.default .error source.filename
    engine.ruleIds.Nodup ∧ cartFile.feature ∉ Settings.default.sharedPaths ∧
      judged (ImportHistory.importOf 2 "A" "../../orders/b") =
        some (noted rule .error ⟨2, 8, by decide⟩ "crossFeatureImport"
          [("currentFeature", "shop"), ("importedFeature", "orders")]) ∧
      judged (ImportHistory.importOf 12 "B" "../item") = none := by
  intro engine source judged
  have distinct : engine.ruleIds.Nodup := by decide
  have parsed : source.root? = some cartProgram := rfl
  have own : cartFile.feature ∉ Settings.default.sharedPaths := by decide
  obtain ⟨_, judging⟩ := climbing_imports_reported distinct Settings.default List.mem_cons_self
    parsed cartFile (by decide +kernel) (by decide +kernel) own
  let crossing : Climb := ⟨2, ["orders", "b"], by simp, by decide +kernel⟩
  let staying : Climb := ⟨1, ["item"], by simp, by decide +kernel⟩
  have across := judging (ImportHistory.importOf 2 "A" "../../orders/b") crossing rfl
    (by decide +kernel)
  have within := judging (ImportHistory.importOf 12 "B" "../item") staying rfl (by decide +kernel)
  refine ⟨distinct, own, (across.2 rfl).trans ?_, within.1 (by decide)⟩
  rw [if_pos (by decide +kernel)]
  rfl

end AngularLint.Proofs.FeatureCrossings
