import SqlToolkit.Calendar
import SqlToolkit.Document.Json
/-!
The plain values of TOML: booleans, whole numbers in four bases, floats, dates and times of day.
Digits may be parted by single underscores.
-/

namespace SqlToolkit.Toml

open Number

/-- Digits with single underscores between them. -/
def readDigits? (isDigit : Char → Bool) (text : List Char) : Option (List Char) :=
  let rec go : Bool → List Char → Option (List Char)
    | afterDigit, [] => if afterDigit then some [] else none
    | afterDigit, c :: rest =>
        if c = '_' then if afterDigit then go false rest else none
        else if isDigit c then (go true rest).map (c :: ·)
        else none
  go false text

def digitValue (c : Char) : Nat :=
  if c.isDigit then c.toNat - 48 else c.toLower.toNat - 87

def radixValue (radix : Nat) (digits : List Char) : Nat :=
  digits.foldl (fun value c => value * radix + digitValue c) 0

def isHexDigit (c : Char) : Bool :=
  c.isDigit || ('a' ≤ c.toLower && c.toLower ≤ 'f')

def signed? (value : Int) : Option Document :=
  if minSigned ≤ value ∧ value ≤ maxSigned then some (.integer value) else none

/-- A whole number in decimal digits, without superfluous zeros in front. -/
def decimalDigits? (text : List Char) : Option (List Char) :=
  (readDigits? Char.isDigit text).filter Json.plainNumeral

def isPlaceChar (c : Char) : Bool :=
  c.isDigit || c = '_'

/-- The exponent of a float; no mark means zero. -/
def floatExponent? : List Char → Option Int
  | [] => some 0
  | c :: rest =>
      if c = 'e' ∨ c = 'E' then do
        let (negative, digits) := splitSign rest
        let value ← digitsValue? (← readDigits? Char.isDigit digits)
        return if negative then -(value : Int) else value
      else none

/-- A float: a whole number, then places after a point or an exponent or both. -/
def float? (negative : Bool) (text : List Char) : Option Document := do
  let whole ← decimalDigits? (text.takeWhile isPlaceChar)
  let rest := text.dropWhile isPlaceChar
  let (places, tail) ← match rest with
    | '.' :: tail =>
        (readDigits? Char.isDigit (tail.takeWhile isPlaceChar)).map fun places =>
          (places, tail.dropWhile isPlaceChar)
    | tail => some ([], tail)
  let exponent ← floatExponent? tail
  let digits ← digitsValue? (whole ++ places)
  let value := (DecimalText.number negative digits (exponent - places.length)).toDouble
  if value.isInfinite ∧ !negative then none else some (.number value)

def scalar? (word : List Char) : Option Document :=
  match word with
  | ['t', 'r', 'u', 'e'] => some (.boolean true)
  | ['f', 'a', 'l', 's', 'e'] => some (.boolean false)
  | '0' :: 'x' :: rest => (readDigits? isHexDigit rest).bind fun d => signed? (radixValue 16 d)
  | '0' :: 'o' :: rest =>
      (readDigits? (fun c => '0' ≤ c && c ≤ '7') rest).bind fun d => signed? (radixValue 8 d)
  | '0' :: 'b' :: rest =>
      (readDigits? (fun c => c = '0' || c = '1') rest).bind fun d => signed? (radixValue 2 d)
  | _ =>
      let (negative, magnitude) := splitSign word
      if magnitude = ['i', 'n', 'f'] then some (.number (Double.infinity negative))
      else if magnitude = ['n', 'a', 'n'] then some (.number Double.nan)
      else match (decimalDigits? magnitude).bind digitsValue? with
        | some value => signed? (if negative then -value else value)
        | none => float? negative magnitude

def isScalarChar (c : Char) : Bool :=
  c.isAlphanum || c = '_' || c = '-' || c = '+' || c = '.'

/-! ### Dates and times -/

/-- A field of a fixed number of digits, between two bounds. -/
def readField? (width low high : Nat) (text : List Char) : Option (Nat × List Char) := do
  let digits := text.take width
  if digits.length < width then none
  else
    let value ← digitsValue? digits
    if low ≤ value ∧ value ≤ high then some (value, text.drop width) else none

def skip? (mark : Char) : List Char → Option (List Char)
  | c :: rest => if c = mark then some rest else none
  | [] => none

def readDate? (text : List Char) : Option (Date × List Char) := do
  let (year, text) ← readField? 4 0 9999 text
  let (month, text) ← readField? 2 1 12 (← skip? '-' text)
  let (day, text) ← readField? 2 1 (Date.lastDay year month) (← skip? '-' text)
  return (⟨year, month, day⟩, text)

/-- Skips the digits of a fraction of a second. -/
def skipFraction : List Char → List Char
  | '.' :: c :: rest => if c.isDigit then rest.dropWhile Char.isDigit else '.' :: c :: rest
  | text => text

/-- A time of day; a minute may have a leap second. -/
def readTime? (text : List Char) : Option (Time × List Char) := do
  let (hour, text) ← readField? 2 0 23 text
  let (minute, text) ← readField? 2 0 59 (← skip? ':' text)
  let (second, text) ← readField? 2 0 60 (← skip? ':' text)
  return (⟨hour, minute, second⟩, skipFraction text)

/-- Skips the offset of a local time from universal time. -/
def skipOffset (text : List Char) : List Char :=
  match text with
  | c :: rest =>
      if c = 'Z' ∨ c = 'z' then rest
      else if c = '+' ∨ c = '-' then
        let offset := do
          let (_, rest) ← readField? 2 0 23 rest
          let (_, rest) ← readField? 2 0 59 (← skip? ':' rest)
          return rest
        offset.getD text
      else text
  | [] => []

/-- A moment stands in a document as a table of its own. -/
def ofMoment (text : String) : Document :=
  .table [("moment", .text text)]

/-- A date, a time of day, or both with a `T` or a blank between them. -/
def readMoment? (text : List Char) : Option (Document × List Char) :=
  match readDate? text with
  | none => (readTime? text).map fun (time, rest) => (ofMoment time.text, rest)
  | some (date, rest) =>
      let time := match rest with
        | c :: tail => if c = 'T' ∨ c = 't' ∨ c = ' ' then readTime? tail else none
        | [] => none
      match time with
      | some (time, tail) => some (ofMoment (Moment.text ⟨date, time⟩), skipOffset tail)
      | none => some (ofMoment date.text, rest)

end SqlToolkit.Toml
