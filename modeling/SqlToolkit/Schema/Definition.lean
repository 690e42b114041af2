import SqlToolkit.Dialect
import SqlToolkit.Schema.Blueprint
/-!
The text of a column declaration: its name, its type in the words of the vendor, and its modifiers
in the order of the vendor.
-/

namespace SqlToolkit

open Number

/-- A dialect with what else the declarations of tables depend on. -/
structure SchemaDialect extends Dialect where
  database : String := ""
  engine : Option String := none
  charset : Option String := none
  collation : Option String := none
  /-- Major and minor version of the server; an unknown one counts as recent. -/
  serverVersion : Option (Nat × Nat) := none
  /-- The schema whose tables are inspected. -/
  searchSchema : Option String := none

/-- Splits a text at each character that is no digit. -/
def digitRuns : List Char → List (List Char)
  | [] => [[]]
  | c :: rest =>
      match digitRuns rest with
      | run :: runs => if c.isDigit then (c :: run) :: runs else [] :: run :: runs
      | [] => []

/-- Reads a number of at most 32 bits. -/
def readVersionPart? (digits : List Char) : Option Nat :=
  (digitsValue? digits).filter (· < 4294967296)

/-- The major and the minor number at the start of a version; a missing minor number is zero. -/
def readVersion? (version : String) : Option (Nat × Nat) :=
  match digitRuns version.toList with
  | [] => none
  | major :: rest =>
      (readVersionPart? major).map fun major =>
        (major, (rest.head?.bind readVersionPart?).getD 0)

/-- What follows the type of a column. -/
inductive Modifier where
  | unsigned
  | charset
  | collation
  | nullable
  | default
  | increment
  | comment
  | after
  deriving DecidableEq, Repr

def Vendor.modifiers : Vendor → List Modifier
  | .sqlite => [.nullable, .default, .increment]
  | .mysql => [.unsigned, .charset, .collation, .nullable, .default, .increment, .comment, .after]
  | .postgres => [.increment, .nullable, .default]

namespace SchemaDialect

def atLeast (dialect : SchemaDialect) (major minor : Nat) : Bool :=
  match dialect.serverVersion with
  | none => true
  | some (actualMajor, actualMinor) =>
      major < actualMajor || (major == actualMajor && minor ≤ actualMinor)

def quotedTexts (texts : List String) : String :=
  ", ".intercalate (texts.map (Text.enclosed '\x27'))

def sqliteType (column : Column) : String :=
  match column.type with
  | .char | .string | .enumeration => "VARCHAR"
  | .text | .mediumText | .longText | .json => "TEXT"
  | .integer | .bigInteger | .mediumInteger | .smallInteger | .tinyInteger => "INTEGER"
  | .float | .double => "FLOAT"
  | .decimal => "NUMERIC"
  | .boolean => "TINYINT"
  | .date => "DATE"
  | .dateTime => "DATETIME"
  | .time => "TIME"
  | .timestamp => if column.useCurrent then "DATETIME DEFAULT CURRENT_TIMESTAMP" else "DATETIME"
  | .binary => "BLOB"

/-- A type with its precision, if the column has one. -/
def withPrecision (name : String) (column : Column) : String :=
  match column.total, column.places with
  | some total, some places => name ++ "(" ++ toString total ++ ", " ++ toString places ++ ")"
  | _, _ => name

def withLength (name : String) (column : Column) : String :=
  name ++ "(" ++ toString (column.length.getD 255) ++ ")"

def mysqlType (dialect : SchemaDialect) (column : Column) : String :=
  match column.type with
  | .char => withLength "CHAR" column
  | .string => withLength "VARCHAR" column
  | .text => "TEXT"
  | .mediumText => "MEDIUMTEXT"
  | .longText => "LONGTEXT"
  | .integer => "INT"
  | .bigInteger => "BIGINT"
  | .mediumInteger => "MEDIUMINT"
  | .smallInteger => "SMALLINT"
  | .tinyInteger => "TINYINT"
  | .float => withPrecision "FLOAT" column
  | .double => withPrecision "DOUBLE" column
  | .decimal => withPrecision "DECIMAL" column
  | .boolean => "TINYINT(1)"
  | .enumeration => "ENUM(" ++ quotedTexts column.allowed ++ ")"
  | .json => if dialect.atLeast 5 7 then "JSON" else "TEXT"
  | .date => "DATE"
  | .dateTime => "DATETIME"
  | .time => "TIME"
  | .timestamp =>
      if !column.useCurrent then "TIMESTAMP"
      else if dialect.atLeast 5 6 then "TIMESTAMP DEFAULT CURRENT_TIMESTAMP"
      else "TIMESTAMP DEFAULT 0"
  | .binary => "BLOB"

/-- The condition that a column holds a value of its enumeration. -/
def enumerationCheck (dialect : SchemaDialect) (column : Column) : String :=
  "CHECK (" ++ dialect.column column.name ++ " IN (" ++ quotedTexts column.allowed ++ "))"

def postgresType (dialect : SchemaDialect) (column : Column) : String :=
  match column.type with
  | .char => withLength "CHAR" column
  | .string => withLength "VARCHAR" column
  | .text | .mediumText | .longText => "TEXT"
  | .integer | .mediumInteger => if column.autoIncrement then "SERIAL" else "INTEGER"
  | .bigInteger => if column.autoIncrement then "BIGSERIAL" else "BIGINT"
  | .smallInteger | .tinyInteger => if column.autoIncrement then "SMALLSERIAL" else "SMALLINT"
  | .float => "REAL"
  | .double => "DOUBLE PRECISION"
  | .decimal =>
      "DECIMAL(" ++ toString (column.total.getD 8) ++ ", " ++ toString (column.places.getD 2) ++ ")"
  | .boolean => "BOOLEAN"
  | .enumeration => "VARCHAR(255) " ++ dialect.enumerationCheck column
  | .json => "JSON"
  | .date => "DATE"
  | .dateTime => "TIMESTAMP(6) WITHOUT TIME ZONE"
  | .time => "TIME(6) WITHOUT TIME ZONE"
  | .timestamp =>
      if column.useCurrent then "TIMESTAMP(6) WITHOUT TIME ZONE DEFAULT CURRENT_TIMESTAMP(6)"
      else "TIMESTAMP(6) WITHOUT TIME ZONE"
  | .binary => "BYTEA"

def columnType (dialect : SchemaDialect) (column : Column) : String :=
  match dialect.vendor with
  | .sqlite => sqliteType column
  | .mysql => dialect.mysqlType column
  | .postgres => dialect.postgresType column

def increment : Vendor → String
  | .sqlite => " PRIMARY KEY AUTOINCREMENT"
  | .mysql => " AUTO_INCREMENT PRIMARY KEY"
  | .postgres => " PRIMARY KEY"

/-- The text of a modifier with a blank in front, or nothing where the column does not have it. -/
def modifier (dialect : SchemaDialect) (column : Column) : Modifier → String
  | .unsigned => if column.unsigned && column.isInteger then " UNSIGNED" else ""
  | .charset => (column.charset.map (" CHARACTER SET " ++ ·)).getD ""
  | .collation => (column.collation.map (" COLLATE " ++ ·)).getD ""
  | .nullable => if column.nullable then " NULL" else " NOT NULL"
  | .default => (column.default.map (" DEFAULT " ++ ·.literal)).getD ""
  | .increment =>
      if column.autoIncrement && column.isInteger then increment dialect.vendor else ""
  | .comment => (column.comment.map (" COMMENT " ++ Text.enclosed '\x27' ·)).getD ""
  | .after => (column.after.map (" AFTER " ++ dialect.column ·)).getD ""

def columnDefinition (dialect : SchemaDialect) (column : Column) : String :=
  dialect.column column.name ++ " " ++ dialect.columnType column ++
    "".intercalate (dialect.vendor.modifiers.map (dialect.modifier column))

def columnDefinitions (dialect : SchemaDialect) (columns : List Column) : List String :=
  columns.map dialect.columnDefinition

end SchemaDialect

end SqlToolkit
