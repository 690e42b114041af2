import SqlToolkit.Row
import SqlToolkit.Schema.Definition
/-!
Inspecting a database: the statements that ask for its tables and columns, and what their rows tell.
-/

namespace SqlToolkit

structure ColumnInfo where
  name : String
  type : String
  notNull : Bool
  default : Option String
  primaryKey : Bool
  deriving DecidableEq, Repr

/-- Reads a row about a column; a row without the column's name tells nothing. -/
def ColumnInfo.ofRow? (row : Row) : Option ColumnInfo := do
  let name ← (← row.get? "name").text?
  let flag column := ((row.get? column).bind Value.integer?).getD 0 ≠ 0
  return {
    name
    type := ((row.get? "type").bind Value.text?).getD ""
    notNull := flag "notnull"
    default := ((row.get? "dflt_value").filter fun value => !value.isNull).map fun value =>
      value.text?.getD value.literal
    primaryKey := flag "pk" }

/-- What has to be known of a table before some of its commands can be written. -/
structure TableContext where
  /-- Whether the database enforces foreign keys. -/
  foreignKeys : Bool := false
  columns : List ColumnInfo := []
  deriving DecidableEq, Repr

/-- SQLite tells columns apart by the case of their letters. -/
def Vendor.foldsColumns : Vendor → Bool
  | .sqlite => false
  | _ => true

/-- The column of a listing that holds the names. -/
def Vendor.listingColumn : Vendor → String
  | .sqlite => "name"
  | _ => "column_name"

namespace SchemaDialect

/-- The name of a table as the database knows it. -/
def storedName (dialect : SchemaDialect) (table : String) : Value :=
  .text (dialect.tablePrefix ++ table)

/-- A select from a relation of the information schema, for one table. -/
def informationSchema (dialect : SchemaDialect) (columns relation table : String) : Statement :=
  let marker := dialect.marker.text
  let select := "SELECT " ++ columns ++ " FROM information_schema." ++ relation ++ " WHERE "
  match dialect.vendor, dialect.searchSchema with
  | .postgres, some schema =>
      ⟨select ++ "table_name = " ++ marker ++ " AND table_schema = " ++ marker,
        [dialect.storedName table, .text schema]⟩
  | .postgres, none => ⟨select ++ "table_name = " ++ marker, [dialect.storedName table]⟩
  | _, _ =>
      ⟨select ++ "table_schema = " ++ marker ++ " AND table_name = " ++ marker,
        [.text dialect.database, dialect.storedName table]⟩

def tableExists (dialect : SchemaDialect) (table : String) : Statement :=
  match dialect.vendor with
  | .sqlite =>
      ⟨"SELECT * FROM sqlite_master WHERE type = 'table' AND name = " ++ dialect.marker.text,
        [dialect.storedName table]⟩
  | _ => dialect.informationSchema "*" "tables" table

/-- SQLite describes the columns of a table in a pragma of its own. -/
def tableInfo (dialect : SchemaDialect) (table : String) : String :=
  "PRAGMA table_info(" ++ dialect.table table ++ ")"

def columnListing (dialect : SchemaDialect) (table : String) : Statement :=
  match dialect.vendor with
  | .sqlite => ⟨dialect.tableInfo table, []⟩
  | .mysql => dialect.informationSchema "column_name AS column_name" "columns" table
  | .postgres =>
      let listing := dialect.informationSchema "column_name" "columns" table
      { listing with sql := listing.sql ++ " ORDER BY ordinal_position" }

/-- Asks whether foreign keys are enforced, where that can change. -/
def foreignKeysQuery? (dialect : SchemaDialect) : Option String :=
  match dialect.vendor with
  | .sqlite => some "PRAGMA foreign_keys"
  | _ => none

/-- Asks for the columns of a table, where commands depend on them. -/
def columnsQuery? (dialect : SchemaDialect) (table : String) : Option String :=
  match dialect.vendor with
  | .sqlite => some (dialect.tableInfo table)
  | _ => none

/-- SQLite rebuilds a table in order to change its columns, so it has to know them. -/
def needsContext (dialect : SchemaDialect) (blueprint : Blueprint) : Bool :=
  dialect.vendor == .sqlite && blueprint.commands.any fun command =>
    match command with
    | .change | .dropColumns _ | .renameColumn _ _ => true
    | _ => false

end SchemaDialect

end SqlToolkit
