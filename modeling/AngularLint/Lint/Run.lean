import AngularLint.Lint.File
import AngularLint.Lint.RuleOption
import AngularLint.Registry

/-! A whole run: from the preset and the options to printed findings, totals and an exit status. -/

namespace AngularLint

structure Request where
  paths : List String
  preset : Option String
  fix : Bool
  /-- Texts with options of rules; a text may be missing. -/
  options : List (Option String)
deriving DecidableEq, Repr

inductive Output where
  | out (line : String)
  | err (line : String)
  | log (record : LogRecord)
deriving DecidableEq, Repr

/-- How a run ends: the exit status, all output in order of time, and the files afterwards. -/
structure Result where
  status : Nat
  outputs : List Output
  store : FileStore

def cleanStatus : Nat := 0

/-- The exit status if a finding is an error. -/
def gateStatus : Nat := 1

/-- The exit status if the run could not do all that was asked. -/
def troubleStatus : Nat := 2

structure Totals where
  errors : Nat
  warnings : Nat
  faults : Nat
  unreadable : Nat
deriving DecidableEq, Repr

def countOf (severity : Severity) (results : List LintedFile) : Nat :=
  (results.flatMap fun linted => linted.report.diagnostics).countP fun diagnostic =>
    diagnostic.severity == severity

def Totals.ofBatch (batch : Batch) : Totals where
  errors := countOf .error batch.results
  warnings := countOf .warn batch.results
  faults := (batch.results.flatMap fun linted => linted.report.faults).length
  unreadable := batch.unreadable.length

namespace Totals

def problems (totals : Totals) : Nat :=
  totals.errors + totals.warnings

def lines (totals : Totals) : List String :=
  if totals.problems == 0 && totals.faults == 0 && totals.unreadable == 0 then []
  else
    [s!"{totals.problems} problem(s) ({totals.errors} error(s), {totals.warnings} warning(s)), " ++
      s!"{totals.faults} rule fault(s), {totals.unreadable} unreadable file(s)"]

end Totals

/-- The lines for one file: its findings, the rules that failed, and the number of fixes. -/
def LintedFile.lines (linted : LintedFile) : List String :=
  let report := linted.report
  let findings := report.diagnostics.map (·.line linted.file)
  let faults := report.faults.map fun fault =>
    s!"{report.path}: rule {fault.rule} failed on {fault.event}: {fault.error}"
  let fixed :=
    if linted.fixed == 0 then [] else [s!"{report.path}: fixed {linted.fixed} problem(s)"]
  findings ++ faults ++ fixed

def Batch.complaints (batch : Batch) : List String :=
  batch.unreadable.map fun (path, fault) =>
    s!"error: {path.text}: could not read: {fault.kind}: {fault.message}"

def Batch.status (batch : Batch) : Nat :=
  if !batch.unreadable.isEmpty then troubleStatus
  else if batch.results.any fun linted => anyError linted.report.diagnostics then gateStatus
  else cleanStatus

def Batch.result (batch : Batch) : Result where
  status := batch.status
  outputs := batch.log.map .log ++ (batch.results.flatMap LintedFile.lines).map .out ++
    batch.complaints.map .err ++ (Totals.ofBatch batch).lines.map .out
  store := batch.store

def Result.ofTrouble (log : List LogRecord) (message : String) (store : FileStore) : Result :=
  ⟨troubleStatus, log.map .log ++ [.err s!"error: {message}"], store⟩

inductive RequestFault where
  | preset (fault : UnknownPreset)
  | option (fault : RuleOptionFault)
  | engine (fault : EngineFault)
deriving DecidableEq, Repr

def RequestFault.message : RequestFault → String
  | .preset fault => fault.message
  | .option fault => fault.message
  | .engine fault => fault.message

inductive RunFault where
  | option (fault : RuleOptionFault)
  | lint (fault : LintFault)
deriving DecidableEq, Repr

def RunFault.message : RunFault → String
  | .option fault => fault.message
  | .lint fault => fault.message

def Request.configuration (request : Request) (environment : Option String) :
    Except RequestFault (Preset × List (String × JsonObject)) := do
  let preset ← (loadPreset request.preset environment).mapError .preset
  let options ← (request.options.mapM readGivenOption).mapError .option
  return (preset, options)

def Request.engine (request : Request) (environment : Option String) :
    Except RequestFault Engine :=
  match request.configuration environment with
  | .error fault => .error fault
  | .ok (preset, options) =>
    (Engine.configure registry preset.severities (.ofList options)).mapError .engine

def RequestFault.result (store : FileStore) : RequestFault → Except RunFault Result
  | .option fault =>
    if fault.breaksOff then .error (.option fault) else .ok (.ofTrouble [] fault.message store)
  | fault => .ok (.ofTrouble [] fault.message store)

def Request.run (request : Request) (grammar : Grammar) (environment : Option String)
    (store : FileStore) : Except RunFault Result :=
  match request.engine environment with
  | .error fault => fault.result store
  | .ok engine =>
    match lintPaths grammar engine request.fix (.ofStore store)
        (request.paths.map FilePath.ofText) with
    | .finished batch => .ok batch.result
    | .unsearchable batch fault => .ok (.ofTrouble batch.log fault.message batch.store)
    | .stopped fault => .error (.lint fault)

end AngularLint
