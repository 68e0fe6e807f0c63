import AngularLint.Json.Value
import AngularLint.Number.Numeral
import AngularLint.Text.Character

/-! Reading JSON. Beside the standard's values the reader takes `NaN`, `Infinity` and `-Infinity`.
Of two members with one key the later value counts, at the place of the earlier. Control characters
inside a string are refused, and so are lists and objects that stand too deep in each other. -/

namespace AngularLint.Json

open AngularLint.Number

inductive Fault where
  | byteOrderMark
  | value
  | propertyName
  | colon
  | comma
  | controlCharacter
  | unterminatedString
  | escape
  | unicodeEscape
  | extraData
  /-- A list, or an object, that stands too deep in others. -/
  | tooDeep (isObject : Bool)
  | number (fault : NumeralFault)
deriving DecidableEq, Repr

def Fault.message : Fault → String
  | .byteOrderMark => "Unexpected UTF-8 BOM (decode using utf-8-sig)"
  | .value => "Expecting value"
  | .propertyName => "Expecting property name enclosed in double quotes"
  | .colon => "Expecting ':' delimiter"
  | .comma => "Expecting ',' delimiter"
  | .controlCharacter => "Invalid control character at"
  | .unterminatedString => "Unterminated string starting at"
  | .escape => "Invalid \\escape"
  | .unicodeEscape => "Invalid \\uXXXX escape"
  | .extraData => "Extra data"
  | .tooDeep isObject =>
    let shape := if isObject then "object" else "array"
    s!"maximum recursion depth exceeded while decoding a JSON {shape} from a unicode string"
  | .number fault => fault.message

def skipBlanks : List Char → List Char
  | c :: rest =>
    if c == ' ' || c == '\t' || c == '\n' || c == '\r' then skipBlanks rest else c :: rest
  | [] => []

/-- The code unit of four hexadecimal digits. Something has to follow them. -/
def codeUnit? : List Char → Option Nat
  | a :: b :: c :: d :: _ :: _ => do
    let a ← Text.hexValue? a
    let b ← Text.hexValue? b
    let c ← Text.hexValue? c
    let d ← Text.hexValue? d
    return ((a * 16 + b) * 16 + c) * 16 + d
  | _ => none

def simpleEscape? (c : Char) : Option Char :=
  if c == '"' || c == '\\' || c == '/' then some c
  else if c == 'b' then some '\x08'
  else if c == 'f' then some '\x0c'
  else if c == 'n' then some '\n'
  else if c == 'r' then some '\r'
  else if c == 't' then some '\t'
  else none

/-- A character by its code; half of a surrogate pair becomes the replacement character. -/
def charOfUnit (unit : Nat) : Char :=
  if 0xD800 ≤ unit && unit < 0xE000 then '\ufffd' else Char.ofNat unit

/-- Reads the rest of a string after its opening quote. `skip` characters still belong to the escape
read last. -/
def readString : Nat → List Char → List Char → Except Fault (String × List Char)
  | _, [], _ => .error .unterminatedString
  | skip + 1, _ :: rest, done => readString skip rest done
  | 0, c :: rest, done =>
    if c == '"' then .ok (String.ofList done.reverse, rest)
    else if c == '\\' then
      match rest with
      | [] => .error .unterminatedString
      | escaped :: after =>
        if escaped == 'u' then
          match codeUnit? after with
          | none => .error .unicodeEscape
          | some high =>
            let paired :=
              0xD800 ≤ high && high < 0xDC00 && ['\\', 'u'].isPrefixOf (after.drop 4) &&
                after.length > 10
            if paired then
              match codeUnit? (after.drop 6) with
              | none => .error .unicodeEscape
              | some low =>
                if 0xDC00 ≤ low && low < 0xE000 then
                  let code := 0x10000 + (high - 0xD800) * 1024 + (low - 0xDC00)
                  readString 11 rest (Char.ofNat code :: done)
                else readString 5 rest (charOfUnit high :: done)
            else readString 5 rest (charOfUnit high :: done)
        else
          match simpleEscape? escaped with
          | none => .error .escape
          | some plain => readString 1 rest (plain :: done)
    else if c.toNat < 0x20 then .error .controlCharacter
    else readString 0 rest (c :: done)

def takeAsciiDigits (text : List Char) : List Char × List Char :=
  (text.takeWhile Char.isDigit, text.dropWhile Char.isDigit)

/-- The whole part of a number: one zero, or digits that start with another one. -/
def takeWhole : List Char → List Char × List Char
  | '0' :: rest => (['0'], rest)
  | text => takeAsciiDigits text

def takeFraction : List Char → List Char × List Char
  | '.' :: rest =>
    match takeAsciiDigits rest with
    | ([], _) => ([], '.' :: rest)
    | (digits, left) => ('.' :: digits, left)
  | text => ([], text)

def takeExponent : List Char → List Char × List Char
  | [] => ([], [])
  | mark :: rest =>
    if mark == 'e' || mark == 'E' then
      let (sign, body) :=
        match rest with
        | '-' :: after => (['-'], after)
        | '+' :: after => (['+'], after)
        | after => ([], after)
      match takeAsciiDigits body with
      | ([], _) => ([], mark :: rest)
      | (digits, left) => (mark :: sign ++ digits, left)
    else ([], mark :: rest)

def readNumber (text : List Char) : Except Fault (Json × List Char) :=
  let (sign, body) :=
    match text with
    | '-' :: rest => (['-'], rest)
    | _ => ([], text)
  match takeWhole body with
  | ([], _) => .error .value
  | (whole, rest) =>
    let (fraction, rest) := takeFraction rest
    let (exponent, rest) := takeExponent rest
    if fraction.isEmpty && exponent.isEmpty then
      match readInteger (String.ofList (sign ++ whole)) with
      | .ok value => .ok (.int value, rest)
      | .error fault => .error (.number fault)
    else
      match readFloat? (String.ofList (sign ++ whole ++ fraction ++ exponent)) with
      | some value => .ok (.float value, rest)
      | none => .error .value

def literals : List (String × Json) :=
  [("null", .null), ("true", .bool true), ("false", .bool false),
   ("NaN", .float notANumber),
   ("Infinity", .float (infinity false)),
   ("-Infinity", .float (infinity true))]

def readScalar (text : List Char) : Except Fault (Json × List Char) :=
  match literals.find? fun literal => literal.1.toList.isPrefixOf text with
  | some (word, value) => .ok (value, text.drop word.length)
  | none => readNumber text

def maxNesting : Nat := 990

mutual

/-- Reads a value. The first number bounds the values, items and members that are begun, which are
at most two for each character and one for the end; the second is the number of lists and objects
that may still be opened in each other. -/
def readValue : Nat → Nat → List Char → Except Fault (Json × List Char)
  | 0, _, _ => .error .value
  | fuel + 1, room, text =>
    match text with
    | '"' :: rest => (readString 0 rest []).map fun (value, left) => (.string value, left)
    | '[' :: rest =>
      if room == 0 then .error (.tooDeep false)
      else
        match skipBlanks rest with
        | ']' :: left => .ok (.list [], left)
        | items => readItems fuel (room - 1) items []
    | '\x7b' :: rest =>
      if room == 0 then .error (.tooDeep true)
      else
        match skipBlanks rest with
        | '\x7d' :: left => .ok (.object [], left)
        | members => readMembers fuel (room - 1) members OrderedMap.empty
    | _ => readScalar text

def readItems : Nat → Nat → List Char → List Json → Except Fault (Json × List Char)
  | 0, _, _, _ => .error .value
  | fuel + 1, room, text, items =>
    match readValue fuel room text with
    | .error fault => .error fault
    | .ok (item, rest) =>
      match skipBlanks rest with
      | ']' :: left => .ok (.list (item :: items).reverse, left)
      | ',' :: left => readItems fuel room (skipBlanks left) (item :: items)
      | _ => .error .comma

def readMembers : Nat → Nat → List Char → JsonObject → Except Fault (Json × List Char)
  | 0, _, _, _ => .error .value
  | fuel + 1, room, text, members =>
    match text with
    | '"' :: rest =>
      match readString 0 rest [] with
      | .error fault => .error fault
      | .ok (key, rest) =>
        match skipBlanks rest with
        | ':' :: rest =>
          match readValue fuel room (skipBlanks rest) with
          | .error fault => .error fault
          | .ok (value, rest) =>
            match skipBlanks rest with
            | '\x7d' :: left => .ok (.object (members.insert key value).entries, left)
            | ',' :: left => readMembers fuel room (skipBlanks left) (members.insert key value)
            | _ => .error .comma
        | _ => .error .colon
    | _ => .error .propertyName

end

def read (text : String) : Except Fault Json :=
  match text.toList with
  | '\ufeff' :: _ => .error .byteOrderMark
  | chars =>
    match readValue (2 * chars.length + 2) maxNesting (skipBlanks chars) with
    | .error fault => .error fault
    | .ok (value, rest) => if (skipBlanks rest).isEmpty then .ok value else .error .extraData

end AngularLint.Json
