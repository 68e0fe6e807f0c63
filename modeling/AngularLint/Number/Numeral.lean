import AngularLint.Number.Binary
import AngularLint.Text.Character
import AngularLint.Text.Quoted

/-! Reading numbers. Digits of every script count, and single underscores may stand between two
digits. A whole number may not have more than 4300 digits, leading zeros included. -/

namespace AngularLint.Number

open AngularLint.Text

def maxDigits : Nat := 4300

inductive NumeralFault where
  | malformed (text : String)
  | tooLong (digits : Nat)
deriving DecidableEq, Repr

/-- The wording of a fault; a malformed text is shown up to its first 200 characters. -/
def NumeralFault.message : NumeralFault → String
  | .malformed text =>
    "invalid literal for int() with base 10: " ++ String.ofList ((quoted text).toList.take 200)
  | .tooLong digits =>
    s!"Exceeds the limit ({maxDigits} digits) for integer string conversion: " ++
      s!"value has {digits} digits; use sys.set_int_max_str_digits() to increase the limit"

def takeSign : List Char → Bool × List Char
  | '-' :: rest => (true, rest)
  | '+' :: rest => (false, rest)
  | rest => (false, rest)

def startsDecimal : List Char → Bool
  | c :: _ => isDecimal c
  | [] => false

/-- The values of a run of digits, and what follows it. A single underscore may stand between two
digits. -/
def takeDigits : List Char → List Nat × List Char
  | [] => ([], [])
  | [c] =>
    match decimalValue? c with
    | some value => ([value], [])
    | none => ([], [c])
  | c :: next :: rest =>
    match decimalValue? c with
    | none => ([], c :: next :: rest)
    | some value =>
      let (values, left) :=
        if next == '_' && startsDecimal rest then takeDigits rest else takeDigits (next :: rest)
      (value :: values, left)

def ofDigits (digits : List Nat) : Nat :=
  digits.foldl (fun number digit => number * 10 + digit) 0

def readInteger (text : String) : Except NumeralFault Int :=
  let (negative, body) := takeSign (strip text).toList
  let (digits, rest) := takeDigits body
  if digits.length > maxDigits then .error (.tooLong digits.length)
  else if digits.isEmpty || !rest.isEmpty then .error (.malformed text)
  else
    let magnitude := Int.ofNat (ofDigits digits)
    .ok (if negative then -magnitude else magnitude)

/-- The double nearest to `digits · 10 ^ exponent`. Exponents far outside the range of doubles are
settled without computing the power. -/
def decimalFloat (negative : Bool) (digits : List Nat) (exponent : Int) : Float :=
  let significant := digits.dropWhile (· == 0)
  let mantissa := ofDigits significant
  let point := Int.ofNat significant.length + exponent
  if mantissa == 0 || point < -400 then nearestFloat negative 0 1
  else if point > 400 then infinity negative
  else nearestFloat negative (mantissa * tenTo exponent) (tenTo (-exponent))

def readExponent? : List Char → Option Int
  | [] => some 0
  | mark :: rest =>
    if mark == 'e' || mark == 'E' then
      let (negative, body) := takeSign rest
      let (digits, left) := takeDigits body
      if digits.isEmpty || !left.isEmpty then none
      else
        let size := Int.ofNat (ofDigits digits)
        some (if negative then -size else size)
    else none

def readDecimal? (negative : Bool) (text : List Char) : Option Float :=
  let (whole, rest) := takeDigits text
  let (fraction, rest) :=
    match rest with
    | '.' :: after => takeDigits after
    | _ => ([], rest)
  if whole.isEmpty && fraction.isEmpty then none
  else
    (readExponent? rest).map fun exponent =>
      decimalFloat negative (whole ++ fraction) (exponent - Int.ofNat fraction.length)

/-- Reads a double: a decimal number, or one of the names of infinity and of what is no number, in
small or capital letters. -/
def readFloat? (text : String) : Option Float :=
  let (negative, body) := takeSign (strip text).toList
  let name := String.ofList (body.map Char.toLower)
  if name == "inf" || name == "infinity" then some (infinity negative)
  else if name == "nan" then some notANumber
  else readDecimal? negative body

end AngularLint.Number
