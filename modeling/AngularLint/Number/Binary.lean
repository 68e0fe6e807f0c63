/-! Numbers of 64 bits: the range of whole ones, in which positions and counts have to fit, and
doubles as exact numbers, a sign and a whole number times a power of two. -/

namespace AngularLint.Number

/-- Whole numbers of 64 bits reach from minus this number up to just below it. -/
def wordBound : Nat := 0x8000000000000000

def wordMessage : String := "cannot fit 'int' into an index-sized integer"

inductive Binary where
  /-- The value `mantissa · 2 ^ exponent`, with a sign. -/
  | finite (negative : Bool) (mantissa : Nat) (exponent : Int)
  | infinite (negative : Bool)
  | notANumber
deriving DecidableEq, Repr

/-- A power of two; a negative exponent counts as zero. -/
def twoTo (exponent : Int) : Nat :=
  Nat.pow 2 exponent.toNat

/-- A power of ten; a negative exponent counts as zero. -/
def tenTo (exponent : Int) : Nat :=
  Nat.pow 10 exponent.toNat

/-- The bit above the 52 bits that a double keeps of its mantissa. -/
def hiddenBit : Nat := 0x10000000000000

def signBit : Nat := 0x8000000000000000

def Binary.ofFloat (x : Float) : Binary :=
  let bits := x.toBits.toNat
  let negative := bits / signBit == 1
  let biased := bits / hiddenBit % 2048
  let fraction := bits % hiddenBit
  if biased == 2047 then if fraction == 0 then .infinite negative else .notANumber
  else if biased == 0 then .finite negative fraction (-1074)
  else .finite negative (hiddenBit + fraction) (Int.ofNat biased - 1075)

/-- The whole number nearest to `num / den`; a half goes to the even neighbour. -/
def roundHalfEven (num den : Nat) : Nat :=
  let quotient := num / den
  let rest := num % den
  if 2 * rest < den then quotient
  else if 2 * rest > den then quotient + 1
  else quotient + quotient % 2

/-- The exponent `e` with `2 ^ 52 ≤ num / (den · 2 ^ e) < 2 ^ 53`, for `num` and `den` not zero. -/
def scaleOf (num den : Nat) : Int :=
  let guess : Int := Int.ofNat num.log2 - Int.ofNat den.log2 - 52
  if num * twoTo (-guess) < den * twoTo guess * hiddenBit then guess - 1 else guess

/-- The double nearest to `num / den`. Numbers too large for a finite double become infinite. -/
def nearestFloat (negative : Bool) (num den : Nat) : Float :=
  let sign := if negative then signBit else 0
  let magnitude :=
    if num == 0 then 0
    else
      let exponent := max (scaleOf num den) (-1074)
      let mantissa := roundHalfEven (num * twoTo (-exponent)) (den * twoTo exponent)
      let step := (exponent + 1074).toNat
      if mantissa < hiddenBit then mantissa
      else min (step * hiddenBit + mantissa) (2047 * hiddenBit)
  Float.ofBits (sign + magnitude).toUInt64

def infinity (negative : Bool) : Float :=
  nearestFloat negative (twoTo 1024) 1

def notANumber : Float :=
  Float.ofBits 0x7ff8000000000000

end AngularLint.Number
