/-!
Bounded whole numbers: the 64-bit ranges, arithmetic that stops at a bound or wraps around, and
the reader of a signed decimal numeral.
-/

namespace SqlToolkit.Number

def maxUnsigned : Nat := 18446744073709551615
def minSigned : Int := -9223372036854775808
def maxSigned : Int := 9223372036854775807

/-- A sum that stops at the largest unsigned word. -/
def saturatingAdd (left right : Nat) : Nat :=
  min (left + right) maxUnsigned

/-- A product that stops at the largest unsigned word. -/
def saturatingMul (left right : Nat) : Nat :=
  min (left * right) maxUnsigned

/-- The nearest signed word. -/
def saturateSigned (n : Int) : Int :=
  max minSigned (min n maxSigned)

/-- The signed word with the same low 64 bits. -/
def wrapSigned (n : Int) : Int :=
  n.bmod 18446744073709551616

def digitsValue? : List Char → Option Nat
  | [] => none
  | digits =>
      if digits.all Char.isDigit then
        some (digits.foldl (fun value c => 10 * value + (c.toNat - 48)) 0)
      else none

/-- Takes one leading sign off; `true` marks a minus sign. -/
def splitSign : List Char → Bool × List Char
  | '-' :: rest => (true, rest)
  | '+' :: rest => (false, rest)
  | text => (false, text)

/-- Reads a whole number of any size: an optional sign, then digits. -/
def readInteger? (text : List Char) : Option Int :=
  (digitsValue? (splitSign text).2).map fun magnitude =>
    if (splitSign text).1 then -(magnitude : Int) else magnitude

def readSigned? (text : List Char) : Option Int :=
  (readInteger? text).filter fun value => minSigned ≤ value ∧ value ≤ maxSigned

end SqlToolkit.Number
