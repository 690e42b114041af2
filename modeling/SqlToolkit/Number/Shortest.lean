import SqlToolkit.Number.Double
/-!
The shortest decimal digits that read back to the same double, and the two ways of writing them
down: in positions only, or with an exponent for very large and very small numbers.
-/

namespace SqlToolkit.Number

/-- Which of two equally near decimals is taken. -/
inductive Tie where
  | up
  | toEven

/-- The decimal `digits * 10 ^ exponent`, without its sign. -/
structure Decimal where
  digits : Nat
  exponent : Int
  deriving DecidableEq, Repr

/-- A value in units of `2 ^ exponent`, with the bounds between which decimals read back to it. -/
structure ReadBack where
  value : Nat
  low : Nat
  high : Nat
  exponent : Int
  /-- The bounds themselves read back too. -/
  closed : Bool

/-- The neighbours of a number lie half a step away, but for a power of two the lower one is twice
as near. -/
def Double.readBack (x : Double) : ReadBack :=
  let (mantissa, exponent) := x.parts
  let lowHalf := if x.fraction = 0 ∧ 1 < x.exponentField then 1 else 2
  { value := 4 * mantissa
    low := 4 * mantissa - lowHalf
    high := 4 * mantissa + 2
    exponent := exponent - 2
    closed := mantissa % 2 = 0 }

namespace ReadBack

/-- The numerator of `n` units over the common denominator `scale`. -/
def unit (interval : ReadBack) : Nat :=
  if 0 ≤ interval.exponent then Nat.pow 2 interval.exponent.toNat else 1

def scale (interval : ReadBack) : Nat :=
  if 0 ≤ interval.exponent then 1 else Nat.pow 2 (-interval.exponent).toNat

/-- Compares `digits * 10 ^ exponent` with `n` units by their cross products: the pair of both. -/
def against (interval : ReadBack) (decimal : Decimal) (n : Nat) : Nat × Nat :=
  if 0 ≤ decimal.exponent then
    (decimal.digits * Nat.pow 10 decimal.exponent.toNat * interval.scale, n * interval.unit)
  else
    (decimal.digits * interval.scale, n * interval.unit * Nat.pow 10 (-decimal.exponent).toNat)

/-- A decimal reads back if it lies between the bounds. -/
def accepts (interval : ReadBack) (decimal : Decimal) : Bool :=
  let low := interval.against decimal interval.low
  let high := interval.against decimal interval.high
  if interval.closed then low.2 ≤ low.1 && high.1 ≤ high.2
  else low.2 < low.1 && high.1 < high.2

/-- The decimals of one exponent on both sides of the value. -/
def neighbours (interval : ReadBack) (exponent : Int) : Decimal × Decimal :=
  let below :=
    if 0 ≤ exponent then
      interval.value * interval.unit / (interval.scale * Nat.pow 10 exponent.toNat)
    else interval.value * interval.unit * Nat.pow 10 (-exponent).toNat / interval.scale
  (⟨below, exponent⟩, ⟨below + 1, exponent⟩)

/-- The nearer of two decimals on both sides of the value. -/
def nearer (interval : ReadBack) (tie : Tie) (below above : Decimal) : Decimal :=
  let fromBelow := interval.against below interval.value
  let fromAbove := interval.against above interval.value
  let distanceBelow := fromBelow.2 - fromBelow.1
  let distanceAbove := fromAbove.1 - fromAbove.2
  if distanceBelow < distanceAbove then below
  else if distanceAbove < distanceBelow then above
  else match tie with
    | .up => above
    | .toEven => if below.digits % 2 = 0 then below else above

/-- The decimal of one exponent that reads back, if there is one. -/
def onGrid? (interval : ReadBack) (tie : Tie) (exponent : Int) : Option Decimal :=
  let (below, above) := interval.neighbours exponent
  match interval.accepts below, interval.accepts above with
  | true, true => some (interval.nearer tie below above)
  | true, false => some below
  | false, true => some above
  | false, false => none

/-- The number of decimal digits before the point of the value, negative for leading zeros after
it: the value lies below `10 ^ order` and not below `10 ^ (order - 1)`. -/
def order (interval : ReadBack) : Int :=
  let whole := interval.value * interval.unit / interval.scale
  if 0 < whole then (Nat.toDigits 10 whole).length
  else
    let inverse := interval.scale / (interval.value * interval.unit)
    let digits : Int := (Nat.toDigits 10 inverse).length
    if Nat.pow 10 (digits - 1).toNat * (interval.value * interval.unit) = interval.scale then
      2 - digits
    else 1 - digits

/-- Tries `fuel` grids, each ten times as fine as the one before. -/
def search (interval : ReadBack) (tie : Tie) : Nat → Int → Decimal
  | 0, exponent => (interval.neighbours exponent).1
  | fuel + 1, exponent =>
      match interval.onGrid? tie exponent with
      | some decimal => decimal
      | none => interval.search tie fuel (exponent - 1)

end ReadBack

/-- Takes `fuel` trailing zeros at most off the digits. -/
def Decimal.reduce : Nat → Decimal → Decimal
  | 0, decimal => decimal
  | fuel + 1, decimal =>
      if decimal.digits % 10 = 0 ∧ decimal.digits ≠ 0 then
        Decimal.reduce fuel ⟨decimal.digits / 10, decimal.exponent + 1⟩
      else decimal

/-- The shortest decimal that reads back to a finite number other than zero. Seventeen digits always
do. -/
def Double.shortest (tie : Tie) (x : Double) : Decimal :=
  let interval := x.readBack
  Decimal.reduce 20 (interval.search tie 18 (interval.order - 1))

def zeros (count : Nat) : String :=
  String.ofList (List.replicate count '0')

def Decimal.digitText (decimal : Decimal) : String :=
  String.ofList (Nat.toDigits 10 decimal.digits)

/-- The position of the decimal point: the number of digits before it. -/
def Decimal.point (decimal : Decimal) : Int :=
  decimal.exponent + (Nat.toDigits 10 decimal.digits).length

/-- The digits with the point at its place and no exponent. -/
def Decimal.positional (decimal : Decimal) : String :=
  let point := decimal.point
  if 0 ≤ decimal.exponent then decimal.digitText ++ zeros decimal.exponent.toNat
  else if point ≤ 0 then "0." ++ zeros (-point).toNat ++ decimal.digitText
  else
    let digits := decimal.digitText.toList
    String.ofList (digits.take point.toNat ++ '.' :: digits.drop point.toNat)

/-- The digits with one digit before the point and a signed power of ten. -/
def Decimal.scientific (decimal : Decimal) : String :=
  let digits := decimal.digitText.toList
  let mantissa := match digits with
    | [] => []
    | [digit] => [digit]
    | digit :: places => digit :: '.' :: places
  let power := decimal.point - 1
  String.ofList mantissa ++ (if 0 ≤ power then "e+" else "e") ++ toString power

/-- A number in positions only: the shortest digits, a tie going up, no point on whole numbers. -/
def Double.positional (x : Double) : String :=
  if x.isNaN then "NaN"
  else
    let sign := if x.negative then "-" else ""
    if x.isInfinite then sign ++ "inf"
    else if x.isZero then sign ++ "0"
    else sign ++ (x.shortest .up).positional

/-- A finite number as a JSON number: a point on whole numbers, and an exponent from 10^16 upwards
and below 10^-5. -/
def Double.json (x : Double) : String :=
  let sign := if x.negative then "-" else ""
  if x.isZero then sign ++ "0.0"
  else
    let decimal := x.shortest .toEven
    if 0 ≤ decimal.exponent ∧ decimal.point ≤ 16 then sign ++ decimal.positional ++ ".0"
    else if -5 < decimal.point ∧ decimal.point ≤ 16 then sign ++ decimal.positional
    else sign ++ decimal.scientific

end SqlToolkit.Number
