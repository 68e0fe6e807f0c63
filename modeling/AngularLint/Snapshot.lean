import AngularLint.Files.Store
import AngularLint.Json.Value
import AngularLint.ParseTree

/-! A project at one moment: its files, and the concrete syntax trees of the texts that occur. Both
are given as JSON. A file has a `path`, and a `text`, the `hex` digits of its bytes, or the mark
`dir` of a directory. A tree has its `text`, whether it is of the dialect with markup (`tsx`),
whether the text has errors (`has_error`), and its `nodes` in pre-order. -/

namespace AngularLint

structure RecordedParse where
  text : String
  markup : Bool
  parse : Parse

def Grammar.ofRecorded (recorded : List RecordedParse) : Grammar where
  parse? text markup :=
    (recorded.find? fun record => record.text == text && record.markup == markup).map
      RecordedParse.parse

namespace Snapshot

/-- A row of a tree: kind, 1 if it is named, label, first byte, end byte, number of children. -/
def row? : Json → Option ParseTree.Row
  | .list [.string kind, .int named, label, .int (.ofNat start), .int (.ofNat stop),
      .int (.ofNat count)] =>
    some ⟨kind, named == 1, label.string?, start, stop, count⟩
  | _ => none

/-- A recorded parse; a tree without a text belongs to the text `default`. -/
def recordedParse? (default : String) (json : Json) : Option RecordedParse := do
  let rows ← (← (← json.member? "nodes").list?).mapM row?
  let tree ← ParseTree.ofRows? rows
  let text := ((json.member? "text").bind Json.string?).getD default
  let markup ← (← json.member? "tsx").bool?
  let hasErrors ← (← json.member? "has_error").bool?
  return ⟨text, markup, ⟨tree, hasErrors⟩⟩

def isHexBlank (c : Char) : Bool :=
  c == ' ' || ('\t' ≤ c && c ≤ '\r')

/-- The bytes of a text of hexadecimal digits, two for each byte. Blanks may stand between bytes. -/
def bytesOfHex? : List Char → Option (List UInt8)
  | [] => some []
  | first :: rest =>
    if isHexBlank first then bytesOfHex? rest
    else
      match rest with
      | [] => none
      | second :: rest => do
        let high ← Text.hexValue? first
        let low ← Text.hexValue? second
        let bytes ← bytesOfHex? rest
        return (high * 16 + low).toUInt8 :: bytes

def fileEntry? (json : Json) : Option FileEntry :=
  match json.member? "text", json.member? "hex", json.member? "dir" with
  | some (.string text), _, _ => some (.file text.toUTF8.toList)
  | none, some (.string hex), _ => (bytesOfHex? hex.toList).map .file
  | none, none, some (.bool true) => some .directory
  | _, _, _ => none

def addFile? (store : FileStore) (json : Json) : Option FileStore := do
  let path ← (← json.member? "path").string?
  let entry ← fileEntry? json
  return store.insert (FilePath.ofText path).parts entry

def store? (files : List Json) : Option FileStore :=
  files.foldlM addFile? .empty

end Snapshot

structure Snapshot where
  store : FileStore
  grammar : Grammar

def Snapshot.ofJson? (json : Json) : Option Snapshot := do
  let store ← Snapshot.store? (← (← json.member? "files").list?)
  let recorded ← (← (← json.member? "trees").list?).mapM (Snapshot.recordedParse? "")
  return ⟨store, .ofRecorded recorded⟩

end AngularLint
