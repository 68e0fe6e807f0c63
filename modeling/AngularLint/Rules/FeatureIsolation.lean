import AngularLint.Angular.Literals
import AngularLint.ModulePath

/-! Features import only from themselves and from shared code. All is decided by paths: the feature
of a file is the folder right under the feature root, unless that is a shared path. Relative imports
are resolved against the folder of the file, and `@/x` stands for `x` under the alias root. -/

namespace AngularLint.Rules.FeatureIsolation

open AngularLint.Angular AngularLint.Text

structure Settings where
  featureRoot : String
  sharedPaths : List String
  aliasRoot : String
  reportSharedOveruse : Bool
deriving DecidableEq, Repr

def Settings.default : Settings where
  featureRoot := "src/app"
  sharedPaths := ["shared", "core"]
  aliasRoot := "src"
  reportSharedOveruse := false

def rootField : OptionField := ⟨"feature_root", "featureRoot"⟩

def sharedField : OptionField := ⟨"shared_paths", "sharedPaths"⟩

def aliasField : OptionField := ⟨"alias_root", "aliasRoot"⟩

def overuseField : OptionField := ⟨"report_shared_overuse", "reportSharedOveruse"⟩

def schema : OptionSchema Settings where
  fields := [rootField, sharedField, aliasField, overuseField]
  read := fun raw =>
    let (root, first) := rootField.read raw Settings.default.featureRoot textOption
    let (shared, second) := sharedField.read raw Settings.default.sharedPaths textsOption
    let (aliasRoot, third) := aliasField.read raw Settings.default.aliasRoot textOption
    let (overuse, fourth) := overuseField.read raw Settings.default.reportSharedOveruse flagOption
    (⟨root, shared, aliasRoot, overuse⟩, first ++ second ++ third ++ fourth)
  entries := fun settings =>
    [(rootField.name, .text settings.featureRoot), (sharedField.name, .texts settings.sharedPaths),
     (aliasField.name, .text settings.aliasRoot),
     (overuseField.name, .flag settings.reportSharedOveruse)]

/-- The folder name at the front of a text, if a slash follows it. -/
def folderName? (text : List Char) : Option (List Char) :=
  let name := text.takeWhile (· != '/')
  if name.isEmpty || name.length == text.length then none else some name

/-- The name of the folder after the first place where the root stands in a path. -/
def folderUnder? (root path : List Char) : Option (List Char) :=
  firstTail? (fun tail =>
    if (root ++ ['/']).isPrefixOf tail then folderName? (tail.drop (root.length + 1))
    else none) path

def featureOf? (settings : Settings) (path : String) : Option String :=
  ((folderUnder? (ModulePath.trimEnd settings.featureRoot.toList) path.toList).map
    String.ofList).filter fun feature => !settings.sharedPaths.contains feature

def isSharedImport (settings : Settings) (path : String) : Bool :=
  settings.sharedPaths.any fun shared =>
    contains path ("/" ++ shared ++ "/") || startsWith path (shared ++ "/") ||
      startsWith path ("@" ++ shared ++ "/")

def isLocal (settings : Settings) (path : String) : Bool :=
  startsWith path "." || startsWith path "@/" ||
    settings.sharedPaths.any fun shared => startsWith path ("@" ++ shared ++ "/")

def resolve (settings : Settings) (filename path : String) : String :=
  if startsWith path "." then
    ModulePath.normalize (ModulePath.append (ModulePath.directory filename) path)
  else if startsWith path "@/" then
    String.ofList (ModulePath.trimEnd settings.aliasRoot.toList ++ '/' :: path.toList.drop 2)
  else path

def architecturalWords : List String := ["service", "model", "guard", "store"]

/-- Does an import name a service, a model, a guard or a store: by a folder, or by the end of the
path, behind which a line feed may stand? -/
def isArchitectural (path : String) : Bool :=
  architecturalWords.any fun word =>
    contains path ("/" ++ word ++ "/") || contains path ("/" ++ word ++ "s/") ||
      endsWith path ("." ++ word) || endsWith path ("." ++ word ++ "\n")

def startsArchitectural (text : List Char) : Bool :=
  architecturalWords.any fun word => ('.' :: word.toList).isPrefixOf text

/-- The longest part of a folder or file name, not empty, that an architectural word follows;
`taken` holds the characters passed, the last first. -/
def longestStem? (taken : List Char) : List Char → Option (List Char)
  | [] => none
  | c :: rest =>
    (longestStem? (c :: taken) rest).or
      (if !taken.isEmpty && startsArchitectural (c :: rest) then some taken.reverse else none)

def serviceName? (path : String) : Option String :=
  (firstTail? (fun tail =>
    match tail with
    | '/' :: rest => longestStem? [] (rest.takeWhile (· != '/'))
    | _ => none) path.toList).map String.ofList

def sharedModule? (path : String) : Option String :=
  (firstTail? (fun tail =>
    if "shared/".toList.isPrefixOf tail then
      let name := (tail.drop 7).takeWhile (· != '/')
      if name.isEmpty then none else some name
    else none) path.toList).map String.ofList

/-- The findings on one import of a file in the feature `current`. -/
def checkPath (settings : Settings) (filename current path : String) (span : Span) : List Act :=
  let crossing :=
    match featureOf? settings (resolve settings filename path) with
    | none => []
    | some imported =>
      if imported == current then []
      else
        [.note span "crossFeatureImport"
          [("currentFeature", current), ("importedFeature", imported)]]
  let shared :=
    if isSharedImport settings path && isArchitectural path then
      [.note span "importFromShared"
        [("feature", current), ("service", (serviceName? path).getD "module")]]
    else []
  let overuse :=
    if !shared.isEmpty && settings.reportSharedOveruse then
      ((sharedModule? path).map fun name => .note span "sharedOveruse" [("module", name)]).toList
    else []
  crossing ++ shared ++ overuse

def check (settings : Settings) (filename : String) (statement : Node) : List Act :=
  match featureOf? settings filename, stringValue? (statement.childAt? ["source"]) with
  | some current, some path =>
    if isLocal settings path then checkPath settings filename current path statement.span else []
  | _, _ => []

def withSlashes (filename : String) : String :=
  filename.map fun c => if c == '\\' then '/' else c

def rule : Rule where
  id := "enforce-feature-isolation"
  description := "Enforce feature isolation - features should not import from other features"
  severity := .error
  fixable := false
  messages := .ofList
    [("crossFeatureImport",
      "Feature \"\x7b\x7b currentFeature \x7d\x7d\" should not import from feature " ++
        "\"\x7b\x7b importedFeature \x7d\x7d\". Features must be isolated"),
     ("importFromShared",
      "Feature \"\x7b\x7b feature \x7d\x7d\" is importing \"\x7b\x7b service \x7d\x7d\" " ++
        "which should be in the feature folder, not in shared"),
     ("sharedOveruse",
      "Consider moving \"\x7b\x7b module \x7d\x7d\" to a specific feature " ++
        "if it's not used by 3+ features")]
  Settings := Settings
  schema := schema
  checker := fun settings =>
    { State := Unit
      start := fun context =>
        let filename := withSlashes context.file.filename
        { acts := []
          state := ()
          handlers := .ofNamed
            [("import_statement",
              .stateless fun cursor _ => check settings filename cursor.node)] } }

end AngularLint.Rules.FeatureIsolation
