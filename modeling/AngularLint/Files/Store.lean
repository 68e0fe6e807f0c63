import AngularLint.Files.Path
import AngularLint.OrderedMap
import AngularLint.Text.Quoted
import AngularLint.Text.Utf8

/-! A tree of directories and files, and what goes wrong when a path is looked up in it. -/

namespace AngularLint

open AngularLint.Text

inductive FileEntry where
  | file (bytes : List UInt8)
  | directory
deriving DecidableEq, Repr

/-- The files and directories below the working directory, by the parts of their paths. -/
structure FileStore where
  entries : OrderedMap (List String) FileEntry
deriving DecidableEq, Repr

inductive FileFault where
  | notFound (path : String)
  | notADirectory (path : String)
  | isADirectory (path : String)
  | nameTooLong (path : String)
  | nullInPath
  | undecodable (fault : Utf8Fault)
deriving DecidableEq, Repr

namespace FileFault

def kind : FileFault → String
  | .notFound _ => "FileNotFoundError"
  | .notADirectory _ => "NotADirectoryError"
  | .isADirectory _ => "IsADirectoryError"
  | .nameTooLong _ => "OSError"
  | .nullInPath => "ValueError"
  | .undecodable _ => "UnicodeDecodeError"

def message : FileFault → String
  | .notFound path => s!"[Errno 2] No such file or directory: {quoted path}"
  | .notADirectory path => s!"[Errno 20] Not a directory: {quoted path}"
  | .isADirectory path => s!"[Errno 21] Is a directory: {quoted path}"
  | .nameTooLong path => s!"[Errno 36] File name too long: {quoted path}"
  | .nullInPath => "embedded null byte"
  | .undecodable fault => fault.message

/-- Does the fault concern the one file only, so that the others can still be read? -/
def isSkippable : FileFault → Bool
  | .nullInPath => false
  | _ => true

end FileFault

inductive Place where
  /-- Into the working directory or below it; the last part comes first. -/
  | inside (parts : List String)
  /-- To a directory above the working directory. -/
  | above
  /-- To something else in such a directory. -/
  | beyond
deriving DecidableEq, Repr

namespace Place

/-- Where a path starts: an absolute one above the working directory, any other in it. -/
def start (path : FilePath) : Place :=
  if path.slashes > 0 then .above else .inside []

def up : Place → Place
  | .inside (_ :: outer) => .inside outer
  | .inside [] => .above
  | .above => .above
  | .beyond => .beyond

def down (name : String) : Place → Place
  | .inside parts => .inside (name :: parts)
  | _ => .beyond

def step (place : Place) (part : String) : Place :=
  if part == ".." then place.up else place.down part

end Place

namespace FileStore

def empty : FileStore :=
  ⟨.empty⟩

/-- Goes down a path from a place, which is held with the last part first, and makes the directories
on the way; at its end it puts the entry. The part `..` goes up, but never above the working
directory. -/
def insertFrom (store : FileStore) (entry : FileEntry) (place : List String) :
    List String → FileStore
  | [] => store
  | part :: rest =>
    if part == ".." then store.insertFrom entry place.tail rest
    else
      let here := (part :: place).reverse
      if rest.isEmpty then ⟨store.entries.insert here entry⟩
      else insertFrom ⟨store.entries.insertNew here .directory⟩ entry (part :: place) rest

def insert (store : FileStore) (parts : List String) (entry : FileEntry) : FileStore :=
  store.insertFrom entry [] parts

/-- The entry at a place. The working directory and those above it are always there; nothing else
is known outside. -/
def entryAt? (store : FileStore) : Place → Option FileEntry
  | .inside [] => some .directory
  | .inside parts => store.entries.get? parts.reverse
  | .above => some .directory
  | .beyond => none

def maxNameBytes : Nat := 255

def maxPathBytes : Nat := 4095

def locateFrom (store : FileStore) (path : String) : Place → List String → Except FileFault Place
  | place, [] => .ok place
  | place, part :: rest =>
    match store.entryAt? place with
    | none => .error (.notFound path)
    | some (.file _) => .error (.notADirectory path)
    | some .directory =>
      if part.utf8ByteSize > maxNameBytes then .error (.nameTooLong path)
      else store.locateFrom path (place.step part) rest

def locate (store : FileStore) (path : FilePath) : Except FileFault (Place × FileEntry) :=
  let text := path.text
  if text.toList.contains '\x00' then .error .nullInPath
  else if text.utf8ByteSize > maxPathBytes then .error (.nameTooLong text)
  else
    match store.locateFrom text (.start path) path.parts with
    | .error fault => .error fault
    | .ok place =>
      match store.entryAt? place with
      | none => .error (.notFound text)
      | some entry => .ok (place, entry)

/-- Is there a directory at a path? That nothing is there, or that a file is in the way, means no;
so does a path that can name nothing. A name that is too long is a fault. -/
def isDirectory (store : FileStore) (path : FilePath) : Except FileFault Bool :=
  match store.locate path with
  | .ok (_, .directory) => .ok true
  | .error (.nameTooLong text) => .error (.nameTooLong text)
  | _ => .ok false

/-- The text of a file, with every line end as a line feed. -/
def readText (store : FileStore) (path : FilePath) : Except FileFault String :=
  match store.locate path with
  | .error fault => .error fault
  | .ok (_, .directory) => .error (.isADirectory path.text)
  | .ok (_, .file bytes) =>
    match decodeUtf8 bytes with
    | .error fault => .error (.undecodable fault)
    | .ok text => .ok (String.ofList (unifyLineEnds text.toList))

def writeText (store : FileStore) (path : FilePath) (text : String) : FileStore :=
  match store.locate path with
  | .ok (.inside parts, .file _) =>
    ⟨store.entries.insert parts.reverse (.file text.toUTF8.toList)⟩
  | _ => store

/-- Lists of names in order: name by name, the shorter list first if one begins the other. -/
def partsNotAfter : List String → List String → Bool
  | [], _ => true
  | _ :: _, [] => false
  | a :: rest, b :: others => a < b || (a == b && partsNotAfter rest others)

def partsBelow (store : FileStore) (directory : List String) : List (List String) :=
  store.entries.entries.filterMap fun (parts, entry) =>
    match entry with
    | .file _ => if directory.isPrefixOf parts then some (parts.drop directory.length) else none
    | .directory => none

def filesBelow (store : FileStore) : Place → List (List String)
  | .inside parts => (store.partsBelow parts.reverse).mergeSort partsNotAfter
  | _ => []

end FileStore

end AngularLint
