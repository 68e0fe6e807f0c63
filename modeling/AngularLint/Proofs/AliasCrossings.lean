import AngularLint.Proofs.FeatureCrossings

/-! Two ways to name one file. A relative import is brought to its normal form before its feature is
looked for, whereas an import below the alias is taken as it is written. So the two are judged alike
if the way to the feature is written plainly and what comes behind the feature stays below it;
otherwise they need not be. -/

namespace AngularLint.Proofs.AliasCrossings
open AngularLint.ModulePath AngularLint.Rules.FeatureIsolation AngularLint.Text
open FeatureCrossings FeatureFolders Reactions SlashedPaths

section Growing

variable {root folders before rest : List String} {folder : String}

theorem follows_inside {last : String} (follows : Follows root (folders ++ [last]) before folder) :
    before.length + root.length + 1 ≤ folders.length := by
  obtain ⟨_, stem, first, more, after, rfl, further, parts⟩ := follows
  have longer := List.length_pos_iff.mpr further
  have lengths := congrArg List.length parts
  simp only [List.length_append, List.length_cons, List.length_nil] at lengths ⊢
  omega

/-- What follows the root inside some folders does so whatever comes behind them. -/
theorem follows_moved {other : List String} (follows : Follows root (folders ++ rest) before folder)
    (inside : before.length + root.length + 1 ≤ folders.length) (further : other ≠ []) :
    Follows root (folders ++ other) before folder := by
  obtain ⟨filled, stem, first, more, after, rfl, _, parts⟩ := follows
  let front := before ++ (stem ++ first) :: (more ++ [folder])
  have whole : front ++ after = folders ++ rest := by
    rw [parts]
    simp [front]
  have short : front.length ≤ folders.length := by
    simp only [front, List.length_append, List.length_cons, List.length_nil] at inside ⊢
    omega
  obtain ⟨between, split⟩ : front <+: folders := by
    apply List.prefix_of_prefix_length_le (List.prefix_append front after) _ short
    rw [whole]
    exact List.prefix_append folders rest
  refine ⟨filled, stem, first, more, between ++ other, rfl, by simp [further], ?_⟩
  rw [← split]
  simp [front]

end Growing

theorem folderOf?_below {features : PlainPath} {base : String}
    (found : (folderOf? features (base ++ "/")).isSome) (rest : String) :
    folderOf? features (base ++ "/" ++ rest) = folderOf? features (base ++ "/") := by
  have parts : splitOn (base ++ "/") '/' = splitOn base '/' ++ [""] := by
    rw [← String.append_empty (s := base ++ "/"), splitOn_slash]
    rfl
  obtain ⟨folder, here⟩ := Option.isSome_iff_exists.mp found
  obtain ⟨before, follows, first⟩ := folderOf?_follows here
  rw [parts] at follows first
  have inside := follows_inside follows
  rw [here, folderOf?_iff, splitOn_slash]
  refine ⟨before, follows_moved follows inside (splitOn_ne_nil rest), ?_⟩
  intro sooner other there
  by_cases later : before.length ≤ sooner.length
  · exact later
  · exact first sooner other (follows_moved there (by omega) (by simp))

/-- How far the way below the alias is written plainly: to its end, or at least to a feature, from
where it goes on without leaving it. -/
inductive Plain (features base : PlainPath) (path : String) : Prop where
  | throughout (ordinary : ∀ part ∈ splitOn path '/', Ordinary part)
  | toFeature (lead rest : List String) (split : splitOn path '/' = lead ++ rest)
      (ordinary : ∀ part ∈ lead, Ordinary part)
      (reached : (folderOf? features (join "/" (base.parts ++ lead) ++ "/")).isSome)
      (stays : ".." ∉ reduced rest) (further : reduced rest ≠ [])

theorem folderOf?_plain {features base : PlainPath} {path : String}
    (plain : Plain features base path) :
    folderOf? features (normalize (base.text ++ "/" ++ path)) =
      folderOf? features (base.text ++ "/" ++ path) := by
  have written : base.text ++ "/" ++ path = join "/" (base.parts ++ splitOn path '/') := by
    rw [join_append base.filled (splitOn_ne_nil path), join_splitOn]
    rfl
  cases plain with
  | throughout ordinary =>
    have left : reduced (base.parts ++ splitOn path '/') = base.parts ++ splitOn path '/' :=
      reduced_ordinary (List.forall_mem_append.mpr ⟨base.ordinary, ordinary⟩)
    rw [base.normalize_below left (base.join_ne_empty _), ← written]
  | toFeature lead rest split ordinary reached stays further =>
    have left : reduced (base.parts ++ splitOn path '/') = base.parts ++ lead ++ reduced rest := by
      rw [split, ← List.append_assoc]
      exact reduced_below (List.forall_mem_append.mpr ⟨base.ordinary, ordinary⟩) stays
    have more : rest ≠ [] := by
      rintro rfl
      exact further rfl
    have way : base.parts ++ lead ≠ [] := by simp [base.filled]
    rw [base.normalize_below left (by rw [List.append_assoc]; exact base.join_ne_empty _), written,
      split, ← List.append_assoc, join_append way further, join_append way more,
      folderOf?_below reached, folderOf?_below reached]

section Judging

variable (settings : Settings) (filename : String)

theorem resolve_relative {path : String} (near : path.toList.head? = some '.') :
    resolve settings filename path = normalize (append (directory filename) path) ∧
      isLocal settings path = true := by
  obtain ⟨rest, split⟩ := List.head?_eq_some_iff.mp near
  have starts : startsWith path "." = true := by simp [startsWith, split]
  constructor
  · rw [resolve, if_pos starts]
  · simp [isLocal, starts]

variable {settings}

theorem resolve_alias {base : PlainPath} (aliased : settings.aliasRoot = base.text)
    (path : String) :
    resolve settings filename ("@/" ++ path) = base.text ++ "/" ++ path ∧
      isLocal settings ("@/" ++ path) = true := by
  have far : startsWith ("@/" ++ path) "." = false := by
    rw [startsWith, String.toList_append]
    rfl
  have starts : startsWith ("@/" ++ path) "@/" = true := by simp [startsWith]
  constructor
  · rw [resolve, far, starts, aliased, base.trimEnd_text]
    apply String.ext
    simp
  · simp [isLocal, starts]

theorem crossing?_alias {features base : PlainPath} (rooted : settings.featureRoot = features.text)
    (aliased : settings.aliasRoot = base.text) {relative path : String}
    (near : relative.toList.head? = some '.') (plain : Plain features base path)
    (same : normalize (append (directory filename) relative) =
      normalize (base.text ++ "/" ++ path)) :
    crossing? settings filename relative = crossing? settings filename ("@/" ++ path) := by
  obtain ⟨one, isNear⟩ := resolve_relative settings filename near
  obtain ⟨other, isAlias⟩ := resolve_alias filename aliased path
  rw [crossing?, crossing?, if_pos isNear, if_pos isAlias, one, other, same, featureOf?_eq rooted,
    featureOf?_eq rooted, featureOf?_eq rooted, folderOf?_plain plain]

end Judging

theorem crossingReport?_data {settings : Settings} {severity : Severity} {filename path : String}
    {statement : Node} (isImport : statement.kind = "import_statement")
    (imports : importPath? statement = some path) :
    (crossingReport? settings severity filename statement).map Diagnostic.data =
      (crossing? settings filename path).map fun crossed => .ofList (crossingNote crossed).2 := by
  rw [crossingReport?, if_pos isImport, imports, Option.bind_some, Option.map_map]
  rfl

/-- A relative import and one below the alias that name the same file are judged alike if the latter
is written plainly: both are reported with the same two features, or none of them is. -/
theorem alias_imports_reported {engine : Engine} (distinct : engine.ruleIds.Nodup)
    (settings : Settings) {severity : Severity}
    (activated : ⟨rule, severity, rule.checker settings⟩ ∈ engine.rules) {source : SourceFile}
    {root : Node} (parsed : source.root? = some root) (features base : PlainPath)
    (rooted : settings.featureRoot = features.text) (aliased : settings.aliasRoot = base.text) :
    let filename := withSlashes source.filename
    let judged := crossingReport? settings severity filename
    crossings (engine.run source) = root.cursors.filterMap (fun cursor => judged cursor.node) ∧
      ∀ one other relative path, one.kind = "import_statement" → other.kind = "import_statement" →
        importPath? one = some relative → importPath? other = some ("@/" ++ path) →
        relative.toList.head? = some '.' →
        normalize (append (directory filename) relative) = normalize (base.text ++ "/" ++ path) →
        Plain features base path →
        (judged one).map Diagnostic.data = (judged other).map Diagnostic.data := by
  intro filename judged
  refine ⟨crossings_run distinct settings activated parsed, ?_⟩
  intro one other relative path oneImport otherImport oneImports otherImports near same plain
  simp only [judged]
  rw [crossingReport?_data oneImport oneImports, crossingReport?_data otherImport otherImports,
    crossing?_alias filename rooted aliased near plain same]

def shopProgram (first second : String) : Node :=
  ⟨"program", 1, ⟨1, 41, by decide⟩, .empty,
    [ImportHistory.importOf 2 "A" first, ImportHistory.importOf 12 "B" second]⟩

/-- Two imports in a file of a shop. -/
def shopFile (first second : String) : SourceFile :=
  ⟨"src/app/shop/a.ts", "", some (shopProgram first second), false⟩

def sourceRoot : PlainPath :=
  ⟨["src"], by simp, by decide +kernel⟩

theorem orders_reported_alike :
    let engine : Engine := ⟨[⟨rule, .error, rule.checker Settings.default⟩]⟩
    let source := shopFile "../orders/./b" "@/app/orders/x/../b"
    let judged := crossingReport? Settings.default .error (withSlashes source.filename)
    let one := ImportHistory.importOf 2 "A" "../orders/./b"
    let other := ImportHistory.importOf 12 "B" "@/app/orders/x/../b"
    engine.ruleIds.Nodup ∧ Plain appRoot sourceRoot "app/orders/x/../b" ∧ (judged one).isSome ∧
      (judged one).map Diagnostic.data = (judged other).map Diagnostic.data := by
  intro engine source judged one other
  have distinct : engine.ruleIds.Nodup := by decide
  have parsed : source.root? = some (shopProgram "../orders/./b" "@/app/orders/x/../b") := rfl
  have plain : Plain appRoot sourceRoot "app/orders/x/../b" :=
    .toFeature ["app", "orders"] ["x", "..", "b"] (by decide +kernel) (by decide +kernel)
      (by decide +kernel) (by decide +kernel) (by decide +kernel)
  obtain ⟨_, alike⟩ := alias_imports_reported distinct Settings.default List.mem_cons_self parsed
    appRoot sourceRoot (by decide +kernel) (by decide +kernel)
  exact ⟨distinct, plain, by decide +kernel,
    alike one other "../orders/./b" "app/orders/x/../b" rfl rfl rfl (by decide +kernel)
      (by decide +kernel) (by decide +kernel) plain⟩

/-- The alias import names the same file as the relative one, and passes unseen. -/
theorem detour_hides_crossing :
    let engine : Engine := ⟨[⟨rule, .error, rule.checker Settings.default⟩]⟩
    let source := shopFile "../orders/b" "@/app/shop/../orders/b"
    normalize (append (directory source.filename) "../orders/b") =
        normalize (sourceRoot.text ++ "/" ++ "app/shop/../orders/b") ∧
      (crossings (engine.run source)).map (·.span.start) = [2] := by
  exact ⟨by decide +kernel, by decide +kernel⟩

end AngularLint.Proofs.AliasCrossings
