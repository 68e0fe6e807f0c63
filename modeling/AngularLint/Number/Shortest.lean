import AngularLint.Number.Binary

/-! The shortest decimal text of a double: the fewest digits that read back as the same double, and
of those the nearest to its value. Numbers from `0.0001` up to below `10 ^ 16` are written with a
point, others with an exponent of at least two digits. -/

namespace AngularLint.Number

structure Decimal where
  digits : Nat
  exponent : Int
deriving DecidableEq, Repr

/-- A fraction of whole numbers that stands for `mantissa · 2 ^ exponent`. -/
def fractionOf (mantissa : Nat) (exponent : Int) : Nat × Nat :=
  (mantissa * twoTo exponent, twoTo (-exponent))

def fractionLt (a b : Nat × Nat) : Bool :=
  a.1 * b.2 < b.1 * a.2

/-- The reals that round to a double: the two ends, and whether they belong to it. -/
structure Rounding where
  low : Nat × Nat
  high : Nat × Nat
  closed : Bool

/-- The reals that round to `mantissa · 2 ^ exponent`. Below a power of two the doubles lie twice as
close as above it. -/
def roundingOf (mantissa : Nat) (exponent : Int) : Rounding :=
  let low :=
    if mantissa == hiddenBit && exponent > -1074 then fractionOf (4 * mantissa - 1) (exponent - 2)
    else fractionOf (2 * mantissa - 1) (exponent - 1)
  ⟨low, fractionOf (2 * mantissa + 1) (exponent - 1), mantissa % 2 == 0⟩

def Rounding.holds (rounding : Rounding) (value : Nat × Nat) : Bool :=
  if rounding.closed then !fractionLt value rounding.low && !fractionLt rounding.high value
  else fractionLt rounding.low value && fractionLt value rounding.high

def Decimal.fraction (decimal : Decimal) : Nat × Nat :=
  (decimal.digits * tenTo decimal.exponent, tenTo (-decimal.exponent))

/-- The number `k` with `10 ^ (k - 1) ≤ value < 10 ^ k`, searched upwards from a start that is not
above it. -/
def pointFrom (value : Nat × Nat) : Nat → Int → Int
  | 0, point => point
  | steps + 1, point =>
    if fractionLt value (Decimal.fraction ⟨1, point⟩) then point
    else pointFrom value steps (point + 1)

/-- On the grid of decimals with a given exponent, the neighbour of the value that rounds to the
double and lies nearer to the value. -/
def onGrid? (value : Nat × Nat) (rounding : Rounding) (exponent : Int) : Option Decimal :=
  let num := value.1 * tenTo (-exponent)
  let den := value.2 * tenTo exponent
  let floor := num / den
  let rest := num % den
  let below : Decimal := ⟨floor, exponent⟩
  let above : Decimal := ⟨floor + 1, exponent⟩
  match rounding.holds below.fraction, rounding.holds above.fraction with
  | true, true =>
    if 2 * rest < den || (2 * rest == den && floor % 2 == 0) then some below else some above
  | true, false => some below
  | false, true => some above
  | false, false => none

/-- The first hit on the grids of `count` digits, `count + 1` digits and so on. -/
def shortestFrom (value : Nat × Nat) (rounding : Rounding) (point : Int) : Nat → Nat → Decimal
  | 0, count => ⟨value.1 / value.2, Int.ofNat count⟩
  | steps + 1, count =>
    match onGrid? value rounding (point - Int.ofNat count) with
    | some decimal => decimal
    | none => shortestFrom value rounding point steps (count + 1)

/-- The shortest decimal that rounds to `mantissa · 2 ^ exponent`, for a mantissa that is not
zero. -/
def shortest (mantissa : Nat) (exponent : Int) : Decimal :=
  let value := fractionOf mantissa exponent
  let point := pointFrom value 700 (-330)
  shortestFrom value (roundingOf mantissa exponent) point 17 1

/-- The digits with the point after the first `point` of them, filled up with zeros. -/
def positional (digits : List Char) (point : Int) : List Char :=
  if point ≤ 0 then
    '0' :: '.' :: List.replicate (-point).toNat '0' ++ digits
  else
    let whole := point.toNat
    if digits.length ≤ whole then
      digits ++ List.replicate (whole - digits.length) '0' ++ ['.', '0']
    else digits.take whole ++ '.' :: digits.drop whole

def withExponent (digits : List Char) (point : Int) : List Char :=
  let exponent := point - 1
  let size := Nat.toDigits 10 exponent.natAbs
  let mark := if exponent < 0 then ['e', '-'] else ['e', '+']
  let lead :=
    match digits with
    | first :: second :: rest => first :: '.' :: second :: rest
    | few => few
  lead ++ mark ++ List.replicate (2 - size.length) '0' ++ size

def Decimal.text (decimal : Decimal) : List Char :=
  let all := Nat.toDigits 10 decimal.digits
  let digits := (all.reverse.dropWhile (· == '0')).reverse
  let point := Int.ofNat all.length + decimal.exponent
  if -4 < point && point ≤ 16 then positional digits point else withExponent digits point

def floatText (x : Float) : String :=
  let signed (negative : Bool) (text : List Char) :=
    String.ofList (if negative then '-' :: text else text)
  match Binary.ofFloat x with
  | .notANumber => "nan"
  | .infinite negative => signed negative ['i', 'n', 'f']
  | .finite negative 0 _ => signed negative ['0', '.', '0']
  | .finite negative mantissa exponent => signed negative (shortest mantissa exponent).text

end AngularLint.Number
