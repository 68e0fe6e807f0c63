import AngularLint.Number.Numeral
import AngularLint.Text.Parts

/-! Dotted attribute paths. A part that consists of digits is a position among repeated values, any
other part is the name of an attribute. -/

namespace AngularLint

open AngularLint.Text AngularLint.Number

inductive Segment where
  | name (name : String)
  | position (index : Nat)
deriving DecidableEq, Repr

abbrev AttributePath := List Segment

/-- Reads one part of a dotted path. Digits of scripts without positional numerals are refused. -/
def Segment.read (part : String) : Except NumeralFault Segment :=
  if !part.isEmpty && part.toList.all isDigit then
    (readInteger part).map fun index => .position index.toNat
  else .ok (.name part)

def Segment.text : Segment → String
  | .name key => key
  | .position index => toString index

def AttributePath.read (path : String) : Except NumeralFault AttributePath :=
  (splitOn path '.').mapM Segment.read

def AttributePath.text (path : AttributePath) : String :=
  join "." (path.map Segment.text)

def AttributePath.ofNames (names : List String) : AttributePath :=
  names.map .name

end AngularLint
