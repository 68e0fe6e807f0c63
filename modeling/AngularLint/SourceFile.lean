import AngularLint.Log
import AngularLint.Node.Build
import AngularLint.Text.Parts

/-! Source files: a name, a text, and the nodes of the text if it has been parsed. -/

namespace AngularLint

open AngularLint.Text

structure SourceFile where
  filename : String
  text : String
  root? : Option Node
  hasErrors : Bool

inductive ParseFault where
  | noTree
  | build (fault : BuildFault)
deriving DecidableEq, Repr

def ParseFault.message : ParseFault → String
  | .noTree => "no tree for this text"
  | .build fault => fault.message

namespace SourceFile

def unparsed (filename text : String) : SourceFile :=
  ⟨filename, text, none, false⟩

/-- Parses a text. Files with the suffix `.tsx` have the dialect with markup. -/
def parse (grammar : Grammar) (filename text : String) : Except ParseFault SourceFile :=
  match grammar.parse? text (endsWith filename ".tsx") with
  | none => .error .noTree
  | some parse =>
    match parse.tree.toNode text with
    | .error fault => .error (.build fault)
    | .ok root? => .ok ⟨filename, text, root?, parse.hasErrors⟩

def parseLog (file : SourceFile) : List LogRecord :=
  if file.hasErrors then
    [⟨.warning, "ngstandards.rules.parser",
      s!"Syntax errors in {file.filename}; analyzing recovered tree"⟩]
  else []

def length (file : SourceFile) : Nat :=
  file.text.length

/-- The offsets just after the line feeds of a text that starts at `index`. -/
def lineStartsFrom : Nat → List Char → List Nat
  | _, [] => []
  | index, c :: rest =>
    if c == '\n' then (index + 1) :: lineStartsFrom (index + 1) rest
    else lineStartsFrom (index + 1) rest

def lineStarts (file : SourceFile) : List Nat :=
  0 :: lineStartsFrom 0 file.text.toList

/-- How many entries of an ascending table are not above the offset, found by halving: the entries
before `low` are not, those from `high` on are, and what lies between is still open. -/
def bisect (table : Array Nat) (offset low high : Nat) (inside : high ≤ table.size) : Nat :=
  if undecided : low < high then
    let middle := (low + high) / 2
    if offset < table[middle] then bisect table offset low middle (by omega)
    else bisect table offset (middle + 1) high inside
  else low
termination_by high - low

/-- Line and column of an offset, both counted from 1. -/
def lineCol (file : SourceFile) (offset : Nat) : Nat × Nat :=
  let starts := file.lineStarts.toArray
  let line := bisect starts offset 0 starts.size (Nat.le_refl _)
  (line, offset - starts[line - 1]?.getD 0 + 1)

/-- Line and column of an offset that may lie before the text. There it is in line 0, and its column
counts from the start of the last line. -/
def lineColAt (file : SourceFile) : Int → Nat × Int
  | .ofNat offset => ((file.lineCol offset).1, (file.lineCol offset).2)
  | .negSucc back => (0, -Int.ofNat back - Int.ofNat (file.lineStarts.getLast?.getD 0))

def lineStart (file : SourceFile) (offset : Nat) : Nat :=
  let before := file.text.toList.take offset
  before.length - (before.reverse.takeWhile (· != '\n')).length

def lineIndent (file : SourceFile) (offset : Nat) : String :=
  String.ofList
    ((file.text.toList.drop (file.lineStart offset)).takeWhile fun c => c == ' ' || c == '\t')

/-- The spaces and tabs at the start of the line of an offset; an offset below 0 counts from the end
of the text. -/
def lineIndentAt (file : SourceFile) : Int → String
  | .ofNat offset => file.lineIndent offset
  | .negSucc back => file.lineIndent (file.length - (back + 1))

end SourceFile

end AngularLint
