import AngularLint.Lint.Run

/-! The command line. Options may stand between paths and may be shortened as long as they are
unambiguous; short options may be bundled; after `--` everything is a path. All paths have to stand
together. -/

namespace AngularLint.CommandLine

open AngularLint.Text

inductive Flag where
  | help
  | preset
  | fix
  | option
  | verbose
deriving DecidableEq, Repr

def spellings : List (String × Flag) :=
  [("-h", .help), ("--help", .help), ("--preset", .preset), ("--fix", .fix),
   ("--option", .option), ("-v", .verbose), ("--verbose", .verbose)]

namespace Flag

def takesValue : Flag → Bool
  | .preset => true
  | .option => true
  | _ => false

def shown (flag : Flag) : String :=
  join "/" ((spellings.filter fun spelling => spelling.2 == flag).map Prod.fst)

end Flag

/-- A word of the command line, by its role. -/
inductive Token where
  /-- A path, or the value of an option. -/
  | argument (text : String)
  /-- The first `--`. -/
  | separator
  /-- An option as it is spelled out in full, and a value attached to it. -/
  | flag (flag : Flag) (spelling : String) (value : Option String)
  /-- An option that there is not. -/
  | unknown (text : String)
deriving DecidableEq, Repr

structure Settings where
  paths : List String
  preset : Option String
  fix : Bool
  /-- The values of the option for rules; one may be missing. -/
  options : List (Option String)
  verbose : Bool
deriving DecidableEq, Repr

inductive Stop where
  | help
  | error (message : String)
deriving DecidableEq, Repr

/-- Is this a negative number? Such a word is a path. A line feed may stand behind it. -/
def isNegativeNumber (word : List Char) : Bool :=
  let word := if word.getLast? == some '\n' then word.dropLast else word
  match word with
  | '-' :: rest =>
    let whole := rest.takeWhile isDecimal
    match rest.dropWhile isDecimal with
    | [] => !whole.isEmpty
    | '.' :: fraction => !fraction.isEmpty && fraction.all isDecimal
    | _ => false
  | _ => false

def splitValue (word : String) : String × Option String :=
  match splitAtFirst? ['='] word.toList with
  | none => (word, none)
  | some (before, after) => (String.ofList before, some (String.ofList after))

/-- The options that a shortened word may mean. -/
def expansions (word : String) : List (Flag × String × Option String) :=
  if startsWith word "--" then
    let (start, value) := splitValue word
    (spellings.filter fun spelling => startsWith spelling.1 start).map fun (spelling, flag) =>
      (flag, spelling, value)
  else
    (spellings.filter fun spelling => spelling.1 == slice word 0 2).map fun (spelling, flag) =>
      (flag, spelling, some (slice word 2 word.length))

def classifyWord (word : String) : Except Stop Token :=
  if !startsWith word "-" || word == "-" then .ok (.argument word)
  else
    match spellings.lookup word with
    | some flag => .ok (.flag flag word none)
    | none =>
      let (start, value) := splitValue word
      match spellings.lookup start with
      | some flag => .ok (.flag flag start value)
      | none =>
        match expansions word with
        | [(flag, spelling, value)] => .ok (.flag flag spelling value)
        | [] =>
          if isNegativeNumber word.toList || word.toList.contains ' ' then .ok (.argument word)
          else .ok (.unknown word)
        | several =>
          let matching := join ", " (several.map fun meaning => meaning.2.1)
          .error (.error s!"ambiguous option: {word} could match {matching}")

def classify : List String → Except Stop (List Token)
  | [] => .ok []
  | word :: rest =>
    if word == "--" then .ok (.separator :: rest.map .argument)
    else do
      let token ← classifyWord word
      let tokens ← classify rest
      return token :: tokens

structure Progress where
  settings : Settings
  /-- Have there been paths? -/
  hasPaths : Bool
  /-- May the next word be one more path? -/
  collecting : Bool
  extras : List String
deriving DecidableEq, Repr

def complaint (flag : Flag) (message : String) : Stop :=
  .error s!"argument {flag.shown}: {message}"

def applySwitch (progress : Progress) : Flag → Except Stop Progress
  | .help => .error .help
  | .fix => .ok { progress with settings.fix := true }
  | .verbose => .ok { progress with settings.verbose := true }
  | .preset => .ok progress
  | .option => .ok progress

/-- Carries out an option whose value is missing. The preset is then open again. -/
def applyMissing (progress : Progress) : Flag → Progress
  | .preset => { progress with settings.preset := none }
  | .option => { progress with settings.options := progress.settings.options ++ [none] }
  | _ => progress

def applyValue (progress : Progress) (flag : Flag) (value : String) : Except Stop Progress :=
  match flag with
  | .preset =>
    let names := presets.map Preset.name
    if names.contains value then .ok { progress with settings.preset := some value }
    else
      let choices := join ", " (names.map quoted)
      .error (complaint flag s!"invalid choice: {quoted value} (choose from {choices})")
  | .option =>
    .ok { progress with settings.options := progress.settings.options ++ [some value] }
  | _ => .ok progress

/-- The options without values that are bundled behind a short one. -/
def unbundle (flag : Flag) : List Char → Except Stop (List Flag)
  | [] => .ok [flag]
  | c :: rest =>
    match spellings.lookup (String.ofList ['-', c]) with
    | some next => (unbundle next rest).map (flag :: ·)
    | none =>
      let value := String.ofList (c :: rest)
      .error (complaint flag s!"ignored explicit argument {quoted value}")

/-- Carries out an option with a value attached to it. An attached `--` is taken for a separator, so
that the value is missing. -/
def applyAttached (progress : Progress) (flag : Flag) (spelling value : String) :
    Except Stop Progress :=
  if flag.takesValue then
    if value == "--" then .ok (applyMissing progress flag) else applyValue progress flag value
  else if startsWith spelling "--" || value.isEmpty then
    .error (complaint flag s!"ignored explicit argument {quoted value}")
  else do
    let flags ← unbundle flag value.toList
    flags.foldlM applySwitch progress

def addArgument (progress : Progress) (text : String) : Progress :=
  if progress.collecting || !progress.hasPaths then
    { progress with
      settings.paths := progress.settings.paths ++ [text]
      hasPaths := true
      collecting := true }
  else { progress with extras := progress.extras ++ [text] }

def readTokens : Progress → List Token → Except Stop Progress
  | progress, [] => .ok progress
  | progress, .argument text :: rest => readTokens (addArgument progress text) rest
  | progress, .separator :: rest =>
    let progress :=
      if progress.collecting || !progress.hasPaths then progress
      else { progress with extras := progress.extras ++ ["--"] }
    readTokens progress rest
  | progress, .unknown text :: rest =>
    readTokens { progress with collecting := false, extras := progress.extras ++ [text] } rest
  | progress, .flag flag spelling (some value) :: rest =>
    match applyAttached { progress with collecting := false } flag spelling value with
    | .error stop => .error stop
    | .ok progress => readTokens progress rest
  | progress, .flag flag _ none :: rest =>
    let progress := { progress with collecting := false }
    if flag.takesValue then
      match rest with
      | .argument value :: rest =>
        match applyValue progress flag value with
        | .error stop => .error stop
        | .ok progress => readTokens progress rest
      | _ => .error (complaint flag "expected one argument")
    else
      match applySwitch progress flag with
      | .error stop => .error stop
      | .ok progress => readTokens progress rest

/-- Reads the command line. There has to be a path, and nothing may be left over. -/
def read (words : List String) : Except Stop Settings := do
  let tokens ← classify words
  let progress ← readTokens ⟨⟨[], none, false, [], false⟩, false, false, []⟩ tokens
  if !progress.hasPaths then .error (.error "the following arguments are required: PATH")
  else if !progress.extras.isEmpty then
    .error (.error ("unrecognized arguments: " ++ join " " progress.extras))
  else .ok progress.settings

def usage : List String :=
  ["usage: __main__.py [-h] [--preset \x7brecommended,strict,warnings\x7d] [--fix]",
   "                   [--option RULE=JSON] [-v]",
   "                   PATH [PATH ...]"]

def helpText : List String :=
  usage ++
    ["",
     "Angular coding-standards linter",
     "",
     "positional arguments:",
     "  PATH                  Files or directories to lint",
     "",
     "options:",
     "  -h, --help            show this help message and exit",
     "  --preset \x7brecommended,strict,warnings\x7d",
     "                        Rule preset (overrides NGSTANDARDS_PRESET env var)",
     "  --fix                 Write automatic fixes back to disk",
     "  --option RULE=JSON    Rule options, e.g. enforce-feature-",
     "                        isolation='\x7b\"featureRoot\": \"src/app\"\x7d'",
     "  -v, --verbose         Log at INFO level"]

def shows (verbose : Bool) : Output → Bool
  | .log record => verbose || record.level == .warning
  | _ => true

/-- Carries out a command line. Log records that show are part of the output. -/
def run (grammar : Grammar) (environment : Option String) (store : FileStore)
    (words : List String) : Except RunFault Result :=
  match read words with
  | .error .help => .ok ⟨cleanStatus, helpText.map .out, store⟩
  | .error (.error message) =>
    .ok ⟨troubleStatus, (usage ++ [s!"__main__.py: error: {message}"]).map .err, store⟩
  | .ok settings =>
    let request : Request := ⟨settings.paths, settings.preset, settings.fix, settings.options⟩
    (request.run grammar environment store).map fun result =>
      { result with outputs := result.outputs.filter (shows settings.verbose) }

def standardOutput (outputs : List Output) : String :=
  String.join (outputs.filterMap fun output =>
    match output with
    | .out line => some (line ++ "\n")
    | _ => none)

/-- The text of a run on standard error; `logged` says whether log records go there too. -/
def standardError (logged : Bool) (outputs : List Output) : String :=
  String.join (outputs.filterMap fun output =>
    match output with
    | .out _ => none
    | .err line => some (line ++ "\n")
    | .log record => if logged then some (record.line ++ "\n") else none)

end AngularLint.CommandLine
