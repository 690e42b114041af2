import SqlToolkit.Migration.Basic
import SqlToolkit.Query.Change
import SqlToolkit.Query.Fetch
import SqlToolkit.Schema.Build
/-!
The history of migrations: a table with one row for each migration that was carried out, and the
batch that it was carried out in.
-/

namespace SqlToolkit

open Number

structure HistoryEntry where
  migration : String
  batch : Int
  deriving DecidableEq, Repr

/-- A row without the name of a migration is no entry. -/
def HistoryEntry.ofRow? (row : Row) : Option HistoryEntry := do
  return {
    migration := ← (← row.get? "migration").text?
    batch := ((row.get? "batch").bind Value.integer?).getD 0 }

structure History where
  table : String := "migrations"
  connection : Option String := none

namespace History

variable {σ α : Type} [Database σ]

def onTable (history : History) (program : Builder → Program α) : Managing σ α :=
  Connections.use history.connection do
    Link.perform (program ((← Link.current).query.table (.named history.table)))

def onSchema (history : History) (program : SchemaDialect → Program α) : Managing σ α :=
  Connections.use history.connection do
    Link.perform (program (← Link.current).schemaDialect)

/-- The migrations that were carried out, in ascending order. -/
def ran (history : History) : Managing σ (List String) := do
  let values ← history.onTable fun table =>
    (table.orderBy (.named "migration") .ascending).values (.named "migration")
  return values.filterMap Value.text?

/-- All entries, the last migration first. -/
def entries (history : History) : Managing σ (List HistoryEntry) := do
  let rows ← history.onTable fun table => (table.orderBy (.named "migration") .descending).get
  return rows.filterMap HistoryEntry.ofRow?

/-- The highest batch number; zero if there is none. -/
def lastBatch (history : History) : Managing σ Int := do
  let highest ← history.onTable fun table => table.maximum "batch"
  return (highest.bind Value.integer?).getD 0

/-- The number after the highest one, in 64 bits. -/
def nextBatch (history : History) : Managing σ Int := do
  return wrapSigned ((← history.lastBatch) + 1)

/-- The entries of the last batch, the last migration first. -/
def lastEntries (history : History) : Managing σ (List HistoryEntry) := do
  let batch ← history.lastBatch
  let rows ← history.onTable fun table =>
    ((table.whereCompare .and (.named "batch") "=" (.bound (.integer batch))).orderBy
      (.named "migration") .descending).get
  return rows.filterMap HistoryEntry.ofRow?

def log (history : History) (migration : String) (batch : Int) : Managing σ Unit :=
  history.onTable fun table => table.insert
    (.ofList [("migration", .bound (.text migration)), ("batch", .bound (.integer batch))])

def delete (history : History) (migration : String) : Managing σ Unit := do
  let _ ← history.onTable fun table =>
    (table.whereCompare .and (.named "migration") "=" (.bound (.text migration))).delete

def exists? (history : History) : Managing σ Bool :=
  history.onSchema fun dialect => dialect.hasTable history.table

def create (history : History) : Managing σ Unit :=
  history.onSchema fun dialect => dialect.build
    (((dialect.blueprint history.table).addCommand .create).addColumns
      [Column.string "migration", { type := .integer, name := "batch" }])

end History

end SqlToolkit
