import SqlToolkit.Document.Basic
import SqlToolkit.Number.Shortest
/-!
JSON: reading a text, and writing a document without blanks and with its keys in order.
-/

namespace SqlToolkit.Json

open Number

def isSpace (c : Char) : Bool :=
  c = ' ' || c = '\n' || c = '\t' || c = '\r'

def skipSpace (text : List Char) : List Char :=
  text.dropWhile isSpace

/-- The value of four hexadecimal digits, with the text behind them. -/
def readHex4? : List Char → Option (Nat × List Char)
  | a :: b :: c :: d :: rest => do
      let digit (c : Char) : Option Nat :=
        if c.isDigit then some (c.toNat - 48)
        else if 'a' ≤ c ∧ c ≤ 'f' then some (c.toNat - 87)
        else if 'A' ≤ c ∧ c ≤ 'F' then some (c.toNat - 55)
        else none
      let a ← digit a
      let b ← digit b
      let c ← digit c
      let d ← digit d
      some (((a * 16 + b) * 16 + c) * 16 + d, rest)
  | _ => none

/-- A character given by its code, or by the codes of a surrogate pair. -/
def readCodePoint? (text : List Char) : Option (Char × List Char) :=
  match readHex4? text with
  | none => none
  | some (high, rest) =>
      if 0xD800 ≤ high ∧ high < 0xDC00 then
        match rest with
        | '\\' :: 'u' :: tail =>
            match readHex4? tail with
            | some (low, tail) =>
                if 0xDC00 ≤ low ∧ low < 0xE000 then
                  some (Char.ofNat (0x10000 + (high - 0xD800) * 0x400 + (low - 0xDC00)), tail)
                else none
            | none => none
        | _ => none
      else if 0xDC00 ≤ high ∧ high < 0xE000 then none
      else some (Char.ofNat high, rest)

def simpleEscape? : Char → Option Char
  | '\x22' => some '\x22'
  | '\\' => some '\\'
  | '/' => some '/'
  | 'b' => some '\x08'
  | 'f' => some '\x0c'
  | 'n' => some '\n'
  | 'r' => some '\r'
  | 't' => some '\t'
  | _ => none

/-- The rest of a string after its opening quote. -/
def readStringTail? : Nat → List Char → Option (List Char × List Char)
  | 0, _ => none
  | _ + 1, [] => none
  | fuel + 1, c :: rest =>
      if c = '\x22' then some ([], rest)
      else if c = '\\' then
        match rest with
        | [] => none
        | 'u' :: tail => do
            let (c, tail) ← readCodePoint? tail
            let (text, tail) ← readStringTail? fuel tail
            some (c :: text, tail)
        | mark :: tail => do
            let c ← simpleEscape? mark
            let (text, tail) ← readStringTail? fuel tail
            some (c :: text, tail)
      else if c.toNat < 0x20 then none
      else do
        let (text, tail) ← readStringTail? fuel rest
        some (c :: text, tail)

def readString? (text : List Char) : Option (String × List Char) :=
  match text with
  | '\x22' :: rest =>
      (readStringTail? (rest.length + 1) rest).map fun (text, tail) => (String.ofList text, tail)
  | _ => none

def isNumberChar (c : Char) : Bool :=
  c.isDigit || c = '-' || c = '+' || c = '.' || c = 'e' || c = 'E'

/-- A numeral without superfluous zeros in front. -/
def plainNumeral (digits : List Char) : Bool :=
  match digits with
  | [] => false
  | ['0'] => true
  | c :: rest => c ≠ '0' && c.isDigit && rest.all Char.isDigit

/-- Appends digits to a whole number while it stays within 64 bits; the second part is the digits
left over. -/
def gather (value : Nat) : List Char → Nat × List Char
  | [] => (value, [])
  | c :: rest =>
      let next := 10 * value + (c.toNat - 48)
      if next ≤ maxUnsigned then gather next rest else (value, c :: rest)

/-- The largest power of ten that is a double. -/
def largestPower : Nat := 308

def powerOfTen (exponent : Nat) : Double :=
  .ofRatio false (Nat.pow 10 exponent) 1

/-- A number times a power of ten, both rounded; a power that is too small is taken in parts. A
result that is too large is refused. -/
def scaled? (value : Double) (exponent : Int) : Option Double :=
  if 0 ≤ exponent then
    if exponent ≤ largestPower then
      let product := value.mul (powerOfTen exponent.toNat)
      if product.isInfinite then none else some product
    else if value.isZero then some value
    else none
  else if -largestPower ≤ exponent then some (value.div (powerOfTen (-exponent).toNat))
  else if value.isZero then some value
  else scaled? (value.div (powerOfTen largestPower)) (exponent + largestPower)
termination_by (-exponent).toNat
decreasing_by simp only [largestPower] at *; omega

/-- The digits after the point and the exponent, both optional. -/
def readFraction? : List Char → Option (List Char × Int)
  | '.' :: tail =>
      let places := tail.takeWhile Char.isDigit
      if places.isEmpty then none
      else (readExponent? (tail.dropWhile Char.isDigit)).map fun exponent => (places, exponent)
  | tail => (readExponent? tail).map fun exponent => ([], exponent)

/-- An integer within 64 bits stays one; every other number becomes a double, as does minus zero.
Digits beyond 64 bits count no more than their place, and the power of ten is multiplied on
afterwards, so the double may lie a few steps off the nearest one. -/
def number? (text : List Char) : Option Document :=
  let negative := text.head? = some '-'
  let magnitude := if negative then text.tail else text
  let whole := magnitude.takeWhile Char.isDigit
  let rest := magnitude.dropWhile Char.isDigit
  let (value, excess) := gather 0 whole
  if !plainNumeral whole then none
  else if rest.isEmpty && excess.isEmpty then
    if !negative then some (.integer value)
    else if value ≠ 0 ∧ minSigned ≤ -(value : Int) then some (.integer (-(value : Int)))
    else some (.number (Double.ofRatio true value 1))
  else do
    let (places, exponent) ← readFraction? rest
    let (value, dropped) := gather value places
    let counted : Int := excess.length - (places.length - dropped.length : Nat)
    let magnitude ← scaled? (Double.ofRatio false value 1) (exponent + counted)
    return .number (magnitude.withSign negative)

mutual

def readValue? : Nat → List Char → Option (Document × List Char)
  | 0, _ => none
  | fuel + 1, text =>
      match skipSpace text with
      | 'n' :: 'u' :: 'l' :: 'l' :: rest => some (.null, rest)
      | 't' :: 'r' :: 'u' :: 'e' :: rest => some (.boolean true, rest)
      | 'f' :: 'a' :: 'l' :: 's' :: 'e' :: rest => some (.boolean false, rest)
      | '\x22' :: rest =>
          (readString? ('\x22' :: rest)).map fun (text, tail) => (.text text, tail)
      | '[' :: rest =>
          match skipSpace rest with
          | ']' :: tail => some (.list [], tail)
          | items => (readItems? fuel items).map fun (items, tail) => (.list items, tail)
      | '\x7b' :: rest =>
          match skipSpace rest with
          | '\x7d' :: tail => some (.table [], tail)
          | entries => (readEntries? fuel [] entries).map fun (entries, tail) => (.table entries, tail)
      | other =>
          (number? (other.takeWhile isNumberChar)).map fun value =>
            (value, other.dropWhile isNumberChar)

/-- The items of a list up to its closing bracket. -/
def readItems? : Nat → List Char → Option (List Document × List Char)
  | 0, _ => none
  | fuel + 1, text => do
      let (item, tail) ← readValue? fuel text
      match skipSpace tail with
      | ',' :: rest =>
          let (items, tail) ← readItems? fuel rest
          some (item :: items, tail)
      | ']' :: rest => some ([item], rest)
      | _ => none

/-- The entries of a table up to its closing brace; a repeated key takes its last value. -/
def readEntries? : Nat → List (String × Document) → List Char →
    Option (List (String × Document) × List Char)
  | 0, _, _ => none
  | fuel + 1, entries, text => do
      let (key, tail) ← readString? (skipSpace text)
      match skipSpace tail with
      | ':' :: rest =>
          let (value, tail) ← readValue? fuel rest
          let entries := Document.put key value entries
          match skipSpace tail with
          | ',' :: rest => readEntries? fuel entries rest
          | '\x7d' :: rest => some (entries, rest)
          | _ => none
      | _ => none

end

def read? (text : String) : Option Document :=
  let chars := text.toList
  match readValue? (chars.length + 1) chars with
  | some (document, tail) => if (skipSpace tail).isEmpty then some document else none
  | none => none

/-- A code below 256 in hexadecimal, with four digits. -/
def hex4 (code : Nat) : List Char :=
  let digits := Nat.toDigits 16 code
  List.replicate (4 - digits.length) '0' ++ digits

def escapedChar (c : Char) : List Char :=
  if c = '\x22' then ['\\', '\x22']
  else if c = '\\' then ['\\', '\\']
  else if c = '\x08' then ['\\', 'b']
  else if c = '\x0c' then ['\\', 'f']
  else if c = '\n' then ['\\', 'n']
  else if c = '\r' then ['\\', 'r']
  else if c = '\t' then ['\\', 't']
  else if c.toNat < 0x20 then '\\' :: 'u' :: hex4 c.toNat
  else [c]

def writeString (text : String) : String :=
  String.ofList ('\x22' :: text.toList.flatMap escapedChar ++ ['\x22'])

mutual

def write : Document → String
  | .null => "null"
  | .boolean value => if value then "true" else "false"
  | .integer value => toString value
  | .number value => value.json
  | .text value => writeString value
  | .list items => "[" ++ ",".intercalate (writeItems items) ++ "]"
  | .table entries => "\x7b" ++ ",".intercalate (writeEntries entries) ++ "\x7d"

def writeItems : List Document → List String
  | [] => []
  | item :: rest => write item :: writeItems rest

def writeEntries : List (String × Document) → List String
  | [] => []
  | (key, value) :: rest => (writeString key ++ ":" ++ write value) :: writeEntries rest

end

end SqlToolkit.Json
