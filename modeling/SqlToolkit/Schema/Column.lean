import SqlToolkit.Number.Shortest
import SqlToolkit.Text.Quoted
/-!
Columns as a table declares them: a type that is common to all vendors, and what modifies it.
-/

namespace SqlToolkit

open Number

inductive ColumnType where
  | char
  | string
  | text
  | mediumText
  | longText
  | integer
  | bigInteger
  | mediumInteger
  | smallInteger
  | tinyInteger
  | float
  | double
  | decimal
  | boolean
  | enumeration
  | json
  | date
  | dateTime
  | time
  | timestamp
  | binary
  deriving DecidableEq, Repr

def ColumnType.isInteger : ColumnType → Bool
  | integer | bigInteger | mediumInteger | smallInteger | tinyInteger => true
  | _ => false

/-- What happens to a row whose foreign row is deleted or gets another key. -/
inductive ForeignAction where
  | noAction
  | restrict
  | cascade
  | setNull
  | setDefault
  deriving DecidableEq, Repr

def ForeignAction.text : ForeignAction → String
  | noAction => "NO ACTION"
  | restrict => "RESTRICT"
  | cascade => "CASCADE"
  | setNull => "SET NULL"
  | setDefault => "SET DEFAULT"

/-- The value of a column that is given none. -/
inductive DefaultValue where
  | null
  | boolean (value : Bool)
  | integer (value : Int)
  | float (value : Double)
  | text (value : String)
  | verbatim (sql : String)
  deriving DecidableEq, Repr

/-- Values are written as quoted texts, whatever their type. -/
def DefaultValue.literal : DefaultValue → String
  | null => "NULL"
  | boolean value => if value then "'1'" else "'0'"
  | integer value => "'" ++ toString value ++ "'"
  | float value => "'" ++ value.positional ++ "'"
  | text value => Text.enclosed '\x27' value
  | verbatim sql => sql

structure Column where
  type : ColumnType
  name : String
  length : Option Nat := none
  /-- The number of digits of a number, and how many of them are behind the point. -/
  total : Option Nat := none
  places : Option Nat := none
  allowed : List String := []
  nullable : Bool := false
  default : Option DefaultValue := none
  unsigned : Bool := false
  autoIncrement : Bool := false
  after : Option String := none
  comment : Option String := none
  charset : Option String := none
  collation : Option String := none
  /-- Whether the time of insertion is the default. -/
  useCurrent : Bool := false
  /-- Whether the column is there already and gets this declaration. -/
  changes : Bool := false
  primary : Bool := false
  unique : Bool := false
  index : Bool := false
  deriving DecidableEq, Repr

namespace Column

def isInteger (column : Column) : Bool :=
  column.type.isInteger

/-- A number that the database counts up for each row. -/
def counter (type : ColumnType) (name : String) : Column :=
  { type, name, unsigned := true, autoIncrement := true }

def ofLength (type : ColumnType) (name : String) (length : Nat) : Column :=
  { type, name, length := some length }

def ofPrecision (type : ColumnType) (name : String) (total places : Nat) : Column :=
  { type, name, total := some total, places := some places }

def string (name : String) : Column :=
  ofLength .string name 255

def float (name : String) : Column :=
  ofPrecision .float name 8 2

def decimal (name : String) : Column :=
  ofPrecision .decimal name 8 2

/-- The time at which a row was deleted, if it was. -/
def deletion : Column :=
  { type := .timestamp, name := "deleted_at", nullable := true }

end Column

end SqlToolkit
