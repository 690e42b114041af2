import SqlToolkit.Expression
import SqlToolkit.Text.Case
/-!
Dialects: how a vendor quotes names and marks bound values. A name may be dotted and may end in an
alias (`users as u`); the table prefix goes in front of the segment that names a table.
-/

namespace SqlToolkit

inductive Vendor where
  | sqlite
  | mysql
  | postgres
  deriving DecidableEq, Repr

def Vendor.name : Vendor → String
  | sqlite => "sqlite"
  | mysql => "mysql"
  | postgres => "postgres"

/-- How a bound value is marked in the text of a statement. -/
inductive Marker where
  | question
  | percent
  deriving DecidableEq, Repr

def Marker.text : Marker → String
  | question => "?"
  | percent => "%s"

def Vendor.defaultMarker : Vendor → Marker
  | postgres => .percent
  | _ => .question

def Vendor.quote : Vendor → Char
  | mysql => '\x60'
  | _ => '\x22'

structure Dialect where
  vendor : Vendor
  tablePrefix : String
  marker : Marker
  deriving DecidableEq, Repr

/-- The clause with single blanks between its parts; empty parts are left out. -/
def joinParts (parts : List String) : String :=
  " ".intercalate (parts.filter (· ≠ ""))

/-- Splits a name at its first ` as `, in any case. -/
def splitAliasChars : List Char → Option (List Char × List Char)
  | [] => none
  | c :: rest =>
      match c, rest with
      | ' ', a :: s :: ' ' :: tail =>
          if a.toLower = 'a' ∧ s.toLower = 's' then some ([], tail)
          else (splitAliasChars rest).map fun (base, name) => (c :: base, name)
      | _, _ => (splitAliasChars rest).map fun (base, name) => (c :: base, name)

/-- The base and the alias of a name that has one, without the blanks around them. -/
def splitAlias (name : String) : Option (String × String) :=
  (splitAliasChars name.toList).map fun (base, name) =>
    (String.ofList (Text.trim base), String.ofList (Text.trim name))

def segmentsChars : List Char → List (List Char)
  | [] => [[]]
  | c :: rest =>
      if c = '.' then [] :: segmentsChars rest
      else match segmentsChars rest with
        | [] => [[c]]
        | segment :: more => (c :: segment) :: more

def segments (name : String) : List String :=
  (segmentsChars name.toList).map String.ofList

/-- The schema before the last dot of a table name, if there is a dot, and the table after it. -/
def splitSchema (name : String) : Option String × String :=
  let parts := segmentsChars name.toList
  match parts.dropLast with
  | [] => (none, name)
  | schema => (some (String.ofList (['.'].intercalate schema)), String.ofList (parts.getLastD []))

namespace Dialect

/-- One quoted name. A star stands for itself. -/
def quoted (dialect : Dialect) (name : String) : String :=
  if name = "*" then "*" else Text.enclosed dialect.vendor.quote name

/-- The quoted segments of a column name; in a dotted one the first names a table. -/
def columnPath (dialect : Dialect) (name : String) : String :=
  match segments name with
  | [] => dialect.quoted name
  | [only] => dialect.quoted only
  | table :: rest =>
      ".".intercalate (dialect.quoted (dialect.tablePrefix ++ table) :: rest.map dialect.quoted)

def column (dialect : Dialect) (name : String) : String :=
  match splitAlias name with
  | some (base, shown) => dialect.columnPath base ++ " AS " ++ dialect.quoted shown
  | none => dialect.columnPath name

/-- The quoted schema and table of a table name; the schema counts as one name. -/
def tablePath (dialect : Dialect) (name : String) : String :=
  match splitSchema name with
  | (some schema, table) =>
      dialect.quoted schema ++ "." ++ dialect.quoted (dialect.tablePrefix ++ table)
  | (none, table) => dialect.quoted (dialect.tablePrefix ++ table)

/-- A table name. The table and its alias both carry the prefix. -/
def table (dialect : Dialect) (name : String) : String :=
  match splitAlias name with
  | some (base, shown) =>
      dialect.tablePath base ++ " AS " ++ dialect.quoted (dialect.tablePrefix ++ shown)
  | none => dialect.tablePath name

def columnRef (dialect : Dialect) : Identifier → String
  | .named name => dialect.column name
  | .verbatim sql => sql

def tableRef (dialect : Dialect) : Identifier → String
  | .named name => dialect.table name
  | .verbatim sql => sql

def columnRefs (dialect : Dialect) (columns : List Identifier) : String :=
  ", ".intercalate (columns.map dialect.columnRef)

def columns (dialect : Dialect) (names : List String) : String :=
  ", ".intercalate (names.map dialect.column)

def parameter (dialect : Dialect) : Operand → String
  | .bound _ => dialect.marker.text
  | .verbatim sql => sql

def parameters (dialect : Dialect) (operands : List Operand) : String :=
  ", ".intercalate (operands.map dialect.parameter)

end Dialect

end SqlToolkit
