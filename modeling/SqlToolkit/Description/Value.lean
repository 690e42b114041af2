import SqlToolkit.Document.Basic
import SqlToolkit.Record
import SqlToolkit.Row
import SqlToolkit.Fault
/-!
Values, names, records and rows written as documents. Documents have no bytes and no special
numbers, so a float is a table that holds its digits, bytes are a table that holds them in
hexadecimal, and SQL is a table that holds its text.
-/

namespace SqlToolkit

open Number

/-- A float by its digits in decimal, or by the name of what is no number. -/
def Document.float? (document : Document) : Option Double := do
  Double.read? (← document.text?).toList

def hexDigit? (c : Char) : Option Nat :=
  if c.isDigit then some (c.toNat - 48)
  else if 'a' ≤ c ∧ c ≤ 'f' then some (c.toNat - 87)
  else none

/-- Bytes as pairs of hexadecimal digits in small letters. -/
def readBytes? : List Char → Option (List UInt8)
  | [] => some []
  | high :: low :: rest => do
      return UInt8.ofNat (16 * (← hexDigit? high) + (← hexDigit? low)) :: (← readBytes? rest)
  | _ => none

namespace Value

def toDocument : Value → Document
  | null => .null
  | boolean value => .boolean value
  | integer value => .integer value
  | float value => .table [("f", .text value.positional)]
  | text value => .text value
  | blob bytes =>
      .table [("blob", .text (String.ofList ((bytes.flatMap hexByte).map Char.toLower)))]

def ofDocument? : Document → Option Value
  | .null => some null
  | .boolean value => some (boolean value)
  | .integer value => some (integer value)
  | .text value => some (text value)
  | .table [("f", digits)] => float <$> digits.float?
  | .table [("blob", .text digits)] => blob <$> readBytes? digits.toList
  | _ => none

end Value

namespace Operand

def toDocument : Operand → Document
  | bound value => value.toDocument
  | verbatim sql => .table [("raw", .text sql)]

def ofDocument? : Document → Option Operand
  | .table [("raw", .text sql)] => some (verbatim sql)
  | document => bound <$> Value.ofDocument? document

end Operand

def Identifier.ofDocument? : Document → Option Identifier
  | .table [("raw", .text sql)] => some (verbatim sql)
  | .text name => some (named name)
  | _ => none

namespace Record

def toDocument (record : Record) : Document :=
  Document.ofList (fun (column, operand) => .list [.text column, operand.toDocument]) record.entries

def ofDocument? (document : Document) : Option Record :=
  ofList <$> document.listOf? fun entry =>
    match entry with
    | .list [.text column, operand] => (column, ·) <$> Operand.ofDocument? operand
    | _ => none

end Record

namespace Row

def toDocument (row : Row) : Document :=
  .list [.list (row.columns.map .text), .list (row.values.map Value.toDocument)]

def ofDocument? : Document → Option Row
  | .list [columns, values] => make <$> columns.texts? <*> values.listOf? Value.ofDocument?
  | _ => none

end Row

def Statement.toDocument (statement : Statement) : Document :=
  .table [("bindings", .list (statement.bindings.map Value.toDocument)),
    ("sql", .text statement.sql)]

end SqlToolkit
