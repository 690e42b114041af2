import SqlToolkit.Calendar
import SqlToolkit.Document.Json
import SqlToolkit.Text.Blank
import SqlToolkit.Text.Quoted
/-!
The values that travel beside a statement as its bindings, the readings of a value as a number or a
text, and its literal in SQL.
-/

namespace SqlToolkit

open Number

inductive Value where
  | null
  | boolean (value : Bool)
  | integer (value : Int)
  | float (value : Double)
  | text (value : String)
  | blob (bytes : List UInt8)
  deriving DecidableEq, Repr

namespace Value

def isNull : Value → Bool
  | null => true
  | _ => false

/-- A whole number, also of a boolean, of a float without a fraction, and of text that spells one. A
float outside the 64-bit range counts as the nearest end of it. -/
def integer? : Value → Option Int
  | integer n => some n
  | boolean b => some (if b then 1 else 0)
  | float x => x.toInt?.map saturateSigned
  | text s => readSigned? (Text.trim s.toList)
  | _ => none

/-- A number, also of text that spells one. -/
def double? : Value → Option Double
  | integer n => some (Double.ofInt n)
  | float x => some x
  | text s => Double.read? (Text.trim s.toList)
  | _ => none

def text? : Value → Option String
  | text s => some s
  | _ => none

def hexByte (byte : UInt8) : List Char :=
  let digits := (Nat.toDigits 16 byte.toNat).map Char.toUpper
  List.replicate (2 - digits.length) '0' ++ digits

/-- The value as it would stand in the text of a statement. -/
def literal : Value → String
  | null => "NULL"
  | boolean b => if b then "TRUE" else "FALSE"
  | integer n => toString n
  | float x => x.positional
  | text s => Text.enclosed '\x27' s
  | blob bytes => "X'" ++ String.ofList (bytes.flatMap hexByte) ++ "'"

/-- An unsigned number; one beyond the signed range travels as its digits. -/
def ofNat (n : Nat) : Value :=
  if (n : Int) ≤ maxSigned then integer n else text (toString n)

def ofDate (date : Date) : Value :=
  text date.text

def ofTime (time : Time) : Value :=
  text time.text

def ofMoment (moment : Moment) : Value :=
  text moment.text

/-- A document travels as its JSON text, the empty document as NULL. -/
def ofJson : Document → Value
  | .null => null
  | document => text (Json.write document)

end Value

/-- A statement with the values for its markers, in order. -/
structure Statement where
  sql : String
  bindings : List Value
  deriving DecidableEq, Repr

end SqlToolkit
