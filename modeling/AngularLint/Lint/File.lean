import AngularLint.Engine
import AngularLint.Files.Sources

/-! Linting files of a store, and repairing them. Fixes that conflict with others wait for the next
pass over the repaired text. -/

namespace AngularLint

structure LintedFile where
  file : SourceFile
  report : Report
  fixed : Nat

inductive LintFault where
  | file (fault : FileFault)
  | parse (fault : ParseFault)
deriving DecidableEq, Repr

def LintFault.message : LintFault → String
  | .file fault => fault.message
  | .parse fault => fault.message

def maxFixPasses : Nat := 10

def LintedFile.log (linted : LintedFile) : List LogRecord :=
  linted.file.parseLog ++ linted.report.faultLog

def lintText (grammar : Grammar) (engine : Engine) (filename text : String) :
    Except ParseFault LintedFile :=
  (SourceFile.parse grammar filename text).map fun file => ⟨file, engine.run file, 0⟩

/-- Repairs a file pass by pass, until no fix applies or the passes are used up; the last state of
the file, and the log of all passes. -/
def fixPasses (grammar : Grammar) (engine : Engine) :
    Nat → LintedFile → List LogRecord → Except ParseFault (LintedFile × List LogRecord)
  | 0, linted, log => .ok (linted, log)
  | passes + 1, linted, log =>
    let (patched, applied) :=
      Fix.applyAccepted (fixesOf linted.report.diagnostics) linted.file.text
    if applied == 0 then .ok (linted, log)
    else
      match lintText grammar engine linted.file.filename patched with
      | .error fault => .error fault
      | .ok next =>
        fixPasses grammar engine passes { next with fixed := linted.fixed + applied }
          (log ++ next.log)

structure FileOutcome where
  linted : LintedFile
  store : FileStore
  log : List LogRecord

/-- Writes a repaired file back; a file without fixes is left alone. -/
def FileOutcome.ofLinted (store : FileStore) (path : FilePath) (linted : LintedFile)
    (log : List LogRecord) : FileOutcome :=
  if linted.fixed == 0 then ⟨linted, store, log⟩
  else
    ⟨linted, store.writeText path linted.file.text,
      log ++ [⟨.info, "ngstandards.lint", s!"Applied {linted.fixed} fix(es) to {path.text}"⟩]⟩

def lintFile (grammar : Grammar) (engine : Engine) (fix : Bool) (store : FileStore)
    (path : FilePath) : Except LintFault FileOutcome :=
  match store.readText path with
  | .error fault => .error (.file fault)
  | .ok text =>
    match lintText grammar engine path.text text with
    | .error fault => .error (.parse fault)
    | .ok linted =>
      match fixPasses grammar engine (if fix then maxFixPasses else 0) linted linted.log with
      | .error fault => .error (.parse fault)
      | .ok (linted, log) => .ok (.ofLinted store path linted log)

structure Batch where
  results : List LintedFile
  unreadable : List (FilePath × FileFault)
  store : FileStore
  log : List LogRecord

def Batch.ofStore (store : FileStore) : Batch :=
  ⟨[], [], store, []⟩

/-- Takes in one file. A file that cannot be read is noted and skipped. -/
def Batch.add (grammar : Grammar) (engine : Engine) (fix : Bool) (batch : Batch)
    (path : FilePath) : Except LintFault Batch :=
  match lintFile grammar engine fix batch.store path with
  | .ok outcome =>
    .ok ⟨batch.results ++ [outcome.linted], batch.unreadable, outcome.store,
      batch.log ++ outcome.log⟩
  | .error (.file fault) =>
    if fault.isSkippable then
      .ok { batch with
        unreadable := batch.unreadable ++ [(path, fault)]
        log := batch.log ++
          [⟨.warning, "ngstandards.lint", s!"Skipping {path.text}: {fault.message}"⟩] }
    else .error (.file fault)
  | .error fault => .error fault

/-- How a batch ends: all paths are done, or one could not be searched, or a file stopped it. -/
inductive BatchEnd where
  | finished (batch : Batch)
  | unsearchable (batch : Batch) (fault : FileFault)
  | stopped (fault : LintFault)

def lintPaths (grammar : Grammar) (engine : Engine) (fix : Bool) :
    Batch → List FilePath → BatchEnd
  | batch, [] => .finished batch
  | batch, path :: rest =>
    match sourcesAt batch.store path with
    | .error fault => .unsearchable batch fault
    | .ok sources =>
      match sources.foldlM (Batch.add grammar engine fix) batch with
      | .error fault => .stopped fault
      | .ok batch => lintPaths grammar engine fix batch rest

end AngularLint
