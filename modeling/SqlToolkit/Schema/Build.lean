import SqlToolkit.Program
import SqlToolkit.Schema.Statements
/-!
Carrying out blueprints, and asking for tables and columns, as programs.
-/

namespace SqlToolkit

namespace SchemaDialect

def hasTable (dialect : SchemaDialect) (table : String) : Program Bool := do
  return !(← Program.fetch (dialect.tableExists table)).isEmpty

def listColumns (dialect : SchemaDialect) (table : String) : Program (List String) := do
  let rows ← Program.fetch (dialect.columnListing table)
  return rows.filterMap fun row =>
    ((row.get? dialect.vendor.listingColumn).or row.first?).bind Value.text?

def sameColumn (vendor : Vendor) (wanted existing : String) : Bool :=
  if vendor.foldsColumns then Text.asciiEq existing wanted else existing == wanted

def hasColumns (dialect : SchemaDialect) (table : String) (columns : List String) :
    Program Bool := do
  let listing ← dialect.listColumns table
  return columns.all fun wanted => listing.any (sameColumn dialect.vendor wanted)

/-- What the database tells of a table. -/
def readContext (dialect : SchemaDialect) (blueprint : Blueprint) : Program TableContext := do
  let foreignKeys ← match dialect.foreignKeysQuery? with
    | some sql => do
        pure (((leadingInteger? (← Program.fetch ⟨sql, []⟩)).getD 0) != 0)
    | none => pure false
  let columns ← match dialect.columnsQuery? blueprint.table with
    | some sql => do
        pure ((← Program.fetch ⟨sql, []⟩).filterMap ColumnInfo.ofRow?)
    | none => pure []
  return { foreignKeys, columns }

def executeTexts : List String → Program Unit
  | [] => pure ()
  | sql :: rest => do
      let _ ← Program.execute ⟨sql, []⟩
      executeTexts rest

/-- Prepares a blueprint and executes its statements. -/
def build (dialect : SchemaDialect) (blueprint : Blueprint) : Program Unit := do
  let blueprint := blueprint.prepared
  let context ←
    if dialect.needsContext blueprint then dialect.readContext blueprint else pure {}
  executeTexts (← Program.check (dialect.statements blueprint context))

def blueprint (dialect : SchemaDialect) (table : String) : Blueprint :=
  { table, tablePrefix := dialect.tablePrefix }

end SchemaDialect

end SqlToolkit
