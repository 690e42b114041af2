import SqlToolkit.Number.Integer
/-!
Floating point numbers by their bits, without machine arithmetic: what a bit pattern stands for,
the pattern nearest to a ratio of whole numbers, and the reader of decimal text.
-/

namespace SqlToolkit.Number

/-- A binary format: `precision` significant bits and the exponent of the smallest step. -/
structure BinaryFormat where
  precision : Nat
  minExponent : Int
  /-- The first exponent that the format cannot hold: values below `2 ^ limit` are finite. -/
  limit : Int

def double : BinaryFormat := ⟨53, -1074, 1024⟩
def single : BinaryFormat := ⟨24, -149, 128⟩

/-- A finite value is `mantissa * 2 ^ exponent`. -/
inductive Magnitude where
  | finite (mantissa : Nat) (exponent : Int)
  | infinite

/-- The whole number nearest to a ratio; of two equally near ones the even one. -/
def roundRatio (num den : Nat) : Nat :=
  let quotient := num / den
  let twice := 2 * (num % den)
  if twice < den then quotient
  else if den < twice then quotient + 1
  else quotient + quotient % 2

/-- `num / den` in steps of `2 ^ exponent`, rounded to the nearest step. -/
def stepsOf (num den : Nat) (exponent : Int) : Nat :=
  if 0 ≤ exponent then roundRatio num (den * Nat.pow 2 exponent.toNat)
  else roundRatio (num * Nat.pow 2 (-exponent).toNat) den

/-- The steps of `2 ^ exponent` that fit wholly into `num / den`. -/
def wholeSteps (num den : Nat) (exponent : Int) : Nat :=
  if 0 ≤ exponent then num / (den * Nat.pow 2 exponent.toNat)
  else num * Nat.pow 2 (-exponent).toNat / den

/-- The value of a format that is nearest to `num / den`, for a positive `den`. -/
def BinaryFormat.nearest (format : BinaryFormat) (num den : Nat) : Magnitude :=
  if num = 0 then .finite 0 format.minExponent
  else
    let estimate : Int := max ((num.log2 : Int) - den.log2 - format.precision) format.minExponent
    let exponent :=
      if Nat.pow 2 format.precision ≤ wholeSteps num den estimate then estimate + 1 else estimate
    let mantissa := stepsOf num den exponent
    if format.limit ≤ (mantissa.log2 : Int) + exponent then .infinite
    else .finite mantissa exponent

/-- A double precision number, as its bit pattern. -/
structure Double where
  bits : UInt64
  deriving DecidableEq, Repr

namespace Double

def negative (x : Double) : Bool :=
  x.bits.toNat / Nat.pow 2 63 == 1

def exponentField (x : Double) : Nat :=
  x.bits.toNat / Nat.pow 2 52 % 2048

def fraction (x : Double) : Nat :=
  x.bits.toNat % Nat.pow 2 52

def isNaN (x : Double) : Bool :=
  x.exponentField == 2047 && x.fraction != 0

def isInfinite (x : Double) : Bool :=
  x.exponentField == 2047 && x.fraction == 0

def isZero (x : Double) : Bool :=
  x.exponentField == 0 && x.fraction == 0

/-- The mantissa and the exponent of two of a finite number, without its sign. -/
def parts (x : Double) : Nat × Int :=
  if x.exponentField = 0 then (x.fraction, -1074)
  else (x.fraction + Nat.pow 2 52, (x.exponentField : Int) - 1075)

def ofBits (negative : Bool) (pattern : Nat) : Double :=
  ⟨UInt64.ofNat ((if negative then Nat.pow 2 63 else 0) + pattern)⟩

def infinity (negative : Bool) : Double := ofBits negative (2047 * Nat.pow 2 52)
def nan : Double := ofBits false (2047 * Nat.pow 2 52 + Nat.pow 2 51)

/-- The pattern of a magnitude whose mantissa has at most 54 bits. -/
def ofMagnitude (negative : Bool) : Magnitude → Double
  | .infinite => infinity negative
  | .finite mantissa exponent =>
      if mantissa < Nat.pow 2 52 then ofBits negative mantissa
      else ofBits negative ((exponent + 1074).toNat * Nat.pow 2 52 + mantissa)

def ofRatio (negative : Bool) (num den : Nat) : Double :=
  ofMagnitude negative (double.nearest num den)

def ofInt (n : Int) : Double :=
  ofRatio (n < 0) n.natAbs 1

def ofScaled (negative : Bool) (mantissa : Nat) (exponent : Int) : Double :=
  if 0 ≤ exponent then ofRatio negative (mantissa * Nat.pow 2 exponent.toNat) 1
  else ofRatio negative mantissa (Nat.pow 2 (-exponent).toNat)

def widen (negative : Bool) : Magnitude → Double
  | .infinite => infinity negative
  | .finite mantissa exponent => ofScaled negative mantissa exponent

def withSign (negative : Bool) (x : Double) : Double :=
  ofBits negative (x.bits.toNat % Nat.pow 2 63)

/-- The product of two finite numbers, rounded to the nearest number. -/
def mul (x y : Double) : Double :=
  ofScaled (x.negative != y.negative) (x.parts.1 * y.parts.1) (x.parts.2 + y.parts.2)

/-- The quotient of two finite numbers, rounded to the nearest number; the second is not zero. -/
def div (x y : Double) : Double :=
  let negative := x.negative != y.negative
  let exponent := x.parts.2 - y.parts.2
  if 0 ≤ exponent then ofRatio negative (x.parts.1 * Nat.pow 2 exponent.toNat) y.parts.1
  else ofRatio negative x.parts.1 (y.parts.1 * Nat.pow 2 (-exponent).toNat)

/-- A finite number without a fractional part, as a whole number. -/
def toInt? (x : Double) : Option Int :=
  if x.exponentField = 2047 then none
  else
    let (mantissa, exponent) := x.parts
    let signed (n : Nat) : Int := if x.negative then -(n : Int) else n
    if 0 ≤ exponent then some (signed (mantissa * Nat.pow 2 exponent.toNat))
    else
      let scale := Nat.pow 2 (-exponent).toNat
      if mantissa % scale = 0 then some (signed (mantissa / scale)) else none

end Double

/-- What decimal text stands for, before it is rounded to a format. -/
inductive DecimalText where
  | nan
  | infinite (negative : Bool)
  /-- The value `digits * 10 ^ exponent`. -/
  | number (negative : Bool) (digits : Nat) (exponent : Int)

/-- The exponent after the mark `e`; no mark means zero. -/
def readExponent? : List Char → Option Int
  | [] => some 0
  | c :: rest =>
      if c = 'e' ∨ c = 'E' then
        (digitsValue? (splitSign rest).2).map fun value =>
          if (splitSign rest).1 then -(value : Int) else value
      else none

/-- Digits around an optional point, with at least one digit, and an optional exponent. -/
def readUnsigned? (negative : Bool) (text : List Char) : Option DecimalText :=
  let whole := text.takeWhile Char.isDigit
  let rest := text.dropWhile Char.isDigit
  let places := match rest with
    | '.' :: tail => tail.takeWhile Char.isDigit
    | _ => []
  let tail := match rest with
    | '.' :: tail => tail.dropWhile Char.isDigit
    | other => other
  match digitsValue? (whole ++ places), readExponent? tail with
  | some digits, some exponent => some (.number negative digits (exponent - places.length))
  | _, _ => none

/-- Reads a decimal number, `nan`, `inf` or `infinity` in any case, with an optional sign. -/
def readDecimal? (text : List Char) : Option DecimalText :=
  let (negative, magnitude) := splitSign text
  let name := magnitude.map Char.toLower
  if name = ['n', 'a', 'n'] then some .nan
  else if name = ['i', 'n', 'f'] ∨ name = ['i', 'n', 'f', 'i', 'n', 'i', 't', 'y'] then
    some (.infinite negative)
  else readUnsigned? negative magnitude

/-- The value of a format nearest to `digits * 10 ^ exponent`. Beyond the given bounds every value
is too large or too small for a format of at most double precision. -/
def nearestDecimal (format : BinaryFormat) (digits : Nat) (exponent : Int) : Magnitude :=
  let order : Int := exponent + (Nat.toDigits 10 digits).length
  if digits = 0 ∨ order < -400 then .finite 0 format.minExponent
  else if 400 < order then .infinite
  else if 0 ≤ exponent then format.nearest (digits * Nat.pow 10 exponent.toNat) 1
  else format.nearest digits (Nat.pow 10 (-exponent).toNat)

def DecimalText.toDouble : DecimalText → Double
  | .nan => .nan
  | .infinite negative => .infinity negative
  | .number negative digits exponent => .ofMagnitude negative (nearestDecimal double digits exponent)

/-- The single precision number nearest to decimal text, in double precision. -/
def DecimalText.toSingle : DecimalText → Double
  | .nan => .nan
  | .infinite negative => .infinity negative
  | .number negative digits exponent => .widen negative (nearestDecimal single digits exponent)

def Double.read? (text : List Char) : Option Double :=
  (readDecimal? text).map (·.toDouble)

end SqlToolkit.Number
