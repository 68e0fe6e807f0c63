import AngularLint.Text.Character

/-! Reading UTF-8. Where the bytes are no text, the fault says which bytes are wrong and why: a byte
that starts nothing, a sequence that breaks off before a byte that does not continue it, or one cut
off by the end of the data. -/

namespace AngularLint.Text

inductive Utf8Reason where
  | startByte
  | continuationByte
  | endOfData
deriving DecidableEq, Repr

/-- A stretch of `length` bytes at `position` that is no character; `first` is the byte there. -/
structure Utf8Fault where
  first : UInt8
  position : Nat
  length : Nat
  reason : Utf8Reason
deriving DecidableEq, Repr

def Utf8Reason.message : Utf8Reason → String
  | .startByte => "invalid start byte"
  | .continuationByte => "invalid continuation byte"
  | .endOfData => "unexpected end of data"

/-- The wording of a fault. One byte is shown, several are only counted. -/
def Utf8Fault.message (fault : Utf8Fault) : String :=
  let shown := String.ofList (hexDigits 2 fault.first.toNat)
  let place :=
    if fault.length == 1 then s!"byte 0x{shown} in position {fault.position}"
    else s!"bytes in position {fault.position}-{fault.position + fault.length - 1}"
  s!"'utf-8' codec can't decode {place}: {fault.reason.message}"

def isContinuation (byte : UInt8) : Bool :=
  0x80 ≤ byte && byte < 0xC0

/-- How many bytes follow a start byte, and the range of the first of them. -/
def sequenceShape? (first : UInt8) : Option (Nat × UInt8 × UInt8) :=
  if first < 0xC2 then none
  else if first < 0xE0 then some (1, 0x80, 0xBF)
  else if first == 0xE0 then some (2, 0xA0, 0xBF)
  else if first == 0xED then some (2, 0x80, 0x9F)
  else if first < 0xF0 then some (2, 0x80, 0xBF)
  else if first == 0xF0 then some (3, 0x90, 0xBF)
  else if first < 0xF4 then some (3, 0x80, 0xBF)
  else if first == 0xF4 then some (3, 0x80, 0x8F)
  else none

/-- The value bits of a start byte that `count` bytes follow. -/
def startBits (first : UInt8) (count : Nat) : Nat :=
  first.toNat % Nat.pow 2 (6 - count)

/-- How many of the bytes after a start byte continue it, at most `count`; the first of them has a
range of its own. -/
def continuing (count : Nat) (low high : UInt8) (rest : List UInt8) : Nat :=
  match rest.take count with
  | [] => 0
  | second :: others =>
    if low ≤ second && second ≤ high then 1 + (others.takeWhile isContinuation).length else 0

/-- Reads the characters from the byte at `position` on. `skip` bytes still belong to the character
read last. -/
def decodeFrom : Nat → Nat → List UInt8 → List Char → Except Utf8Fault (List Char)
  | _, _, [], decoded => .ok decoded.reverse
  | position, skip + 1, _ :: rest, decoded => decodeFrom (position + 1) skip rest decoded
  | position, 0, first :: rest, decoded =>
    if first < 0x80 then decodeFrom (position + 1) 0 rest (Char.ofNat first.toNat :: decoded)
    else
      match sequenceShape? first with
      | none => .error ⟨first, position, 1, .startByte⟩
      | some (count, low, high) =>
        let found := continuing count low high rest
        if found == count then
          let code := (rest.take count).foldl (fun code byte => code * 64 + byte.toNat % 64)
            (startBits first count)
          decodeFrom (position + 1) count rest (Char.ofNat code :: decoded)
        else if found == rest.length then .error ⟨first, position, found + 1, .endOfData⟩
        else .error ⟨first, position, found + 1, .continuationByte⟩

def decodeUtf8 (bytes : List UInt8) : Except Utf8Fault String :=
  (decodeFrom 0 0 bytes []).map String.ofList

/-- Every line end, `\r\n` or a lone `\r`, as `\n`. -/
def unifyLineEnds : List Char → List Char
  | '\r' :: '\n' :: rest => '\n' :: unifyLineEnds rest
  | '\r' :: rest => '\n' :: unifyLineEnds rest
  | c :: rest => c :: unifyLineEnds rest
  | [] => []

end AngularLint.Text
