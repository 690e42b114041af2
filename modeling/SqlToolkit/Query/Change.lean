import SqlToolkit.Program
import SqlToolkit.Query.Builder
/-!
Changing rows through a builder. Records are written with their columns in ascending order, so that
records which name the same columns in another order go together.
-/

namespace SqlToolkit

namespace Builder

/-- Inserts records; no records are nothing to do. -/
def insertMany (builder : Builder) (records : List Record) : Program Unit := do
  Program.check builder.sound
  if records = [] then return
  let records := records.map Record.sorted
  let sql ← Program.check (builder.dialect.insert builder.query records)
  let _ ← Program.execute ⟨sql, records.flatMap Record.bindings⟩

def insert (builder : Builder) (record : Record) : Program Unit :=
  builder.insertMany [record]

/-- Inserts a record and results in its key. A vendor that returns the key returns it as a row. -/
def insertGetKey (builder : Builder) (record : Record) (keyColumn : Option String) :
    Program Int := do
  Program.check builder.sound
  let record := record.sorted
  let sql ← Program.check
    (builder.dialect.insertReturning builder.query record (keyColumn.getD "id"))
  let statement : Statement := ⟨sql, record.bindings⟩
  if builder.dialect.vendor.returnsKey then
    return (leadingInteger? (← Program.fetchFromPrimary statement)).getD 0
  return (← Program.execute statement).lastKey.getD 0

/-- Assigns the columns of a record in all rows of the query; results in their number. -/
def update (builder : Builder) (record : Record) : Program Nat := do
  Program.check builder.sound
  let sql ← Program.check (builder.dialect.update builder.query record)
  let bindings := builder.dialect.updateBindings builder.query builder.bindings record
  return (← Program.execute ⟨sql, bindings⟩).affected

/-- Adds an amount to a column, or takes it away, and assigns the columns of a record besides. -/
def adjust (builder : Builder) (column : String) (sign : String) (amount : Int) (extra : Record) :
    Program Nat :=
  let sum := builder.dialect.column column ++ " " ++ sign ++ " " ++ toString amount
  builder.update ((Record.empty.insert column (.verbatim sum)).merge extra)

def increment (builder : Builder) (column : String) (amount : Int) (extra : Record) : Program Nat :=
  builder.adjust column "+" amount extra

def decrement (builder : Builder) (column : String) (amount : Int) (extra : Record) : Program Nat :=
  builder.adjust column "-" amount extra

def delete (builder : Builder) : Program Nat := do
  Program.check builder.sound
  let sql ← Program.check (builder.dialect.delete builder.query)
  let bindings := builder.dialect.deleteBindings builder.query builder.bindings
  return (← Program.execute ⟨sql, bindings⟩).affected

def deleteKey (builder : Builder) (key : Operand) : Program Nat :=
  (builder.whereCompare .and (.named "id") "=" key).delete

def executeAll : List Statement → Program Unit
  | [] => pure ()
  | statement :: rest => do
      let _ ← Program.execute statement
      executeAll rest

def truncate (builder : Builder) : Program Unit := do
  Program.check builder.sound
  Program.connected
  executeAll (← Program.check (builder.dialect.truncate builder.query))

end Builder

end SqlToolkit
