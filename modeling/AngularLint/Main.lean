import AngularLint.CommandLine
import AngularLint.Json.Reader
import AngularLint.Snapshot

/-! The program. It takes the command line and, on standard input, a snapshot of the project: the
files and their concrete syntax trees, which a grammar has made beforehand. Repaired files are
written to disk. -/

namespace AngularLint

def changedFiles (before after : FileStore) : List (String × List UInt8) :=
  after.entries.entries.filterMap fun (parts, entry) =>
    match entry with
    | .file bytes =>
      if before.entries.get? parts == some entry then none else some (Text.join "/" parts, bytes)
    | .directory => none

def readSnapshot? (text : String) : Option Snapshot :=
  match Json.read text with
  | .ok json => Snapshot.ofJson? json
  | .error _ => none

end AngularLint

open AngularLint in
def main (words : List String) : IO UInt32 := do
  let environment ← IO.getEnv "NGSTANDARDS_PRESET"
  let input ← (← IO.getStdin).readToEnd
  match readSnapshot? input with
  | none =>
    IO.eprintln "error: no snapshot on standard input"
    return 2
  | some snapshot =>
    match CommandLine.run snapshot.grammar environment snapshot.store words with
    | .error fault =>
      IO.eprintln fault.message
      return 1
    | .ok result =>
      IO.print (CommandLine.standardOutput result.outputs)
      IO.eprint (CommandLine.standardError true result.outputs)
      for (path, bytes) in changedFiles snapshot.store result.store do
        IO.FS.writeBinFile path bytes.toByteArray
      return result.status.toUInt32
