import SqlToolkit.Program
import SqlToolkit.Query.Builder
import SqlToolkit.Query.Page
/-!
Reading through a builder: rows, single values, aggregates, and results in pages or chunks.
-/

namespace SqlToolkit

open Number

namespace Builder

def get (builder : Builder) : Program (List Row) := do
  Program.fetch (← Program.check builder.statement)

/-- Selects the given columns, unless the builder has a select list of its own. -/
def getColumns (builder : Builder) (columns : List Identifier) : Program (List Row) :=
  if builder.query.columns = [] then (builder.select columns).get else builder.get

def first (builder : Builder) : Program (Option Row) := do
  return (← (builder.limit 1).get).head?

def whereKey (builder : Builder) (key : Operand) : Builder :=
  builder.whereCompare .and (.named "id") "=" key

def find (builder : Builder) (key : Operand) : Program (Option Row) :=
  (builder.whereKey key).first

def value (builder : Builder) (column : Identifier) : Program (Option Value) := do
  return (← (builder.select [column]).first).bind Row.first?

def values (builder : Builder) (column : Identifier) : Program (List Value) := do
  return (← (builder.select [column]).get).filterMap Row.first?

/-- The values of a column in all rows, each behind the value of a key column. -/
def valuesByKey (builder : Builder) (column key : Identifier) : Program (List (Value × Value)) := do
  return (← (builder.select [column, key]).get).map fun row =>
    (row.values.getD 1 .null, row.values.getD 0 .null)

/-- A value within a joined text: text as it is, NULL as nothing. -/
def joinedText : Value → String
  | .text text => text
  | .null => ""
  | value => value.literal

def implode (builder : Builder) (column : Identifier) (glue : String) : Program String := do
  return glue.intercalate ((← builder.values column).map joinedText)

def exists? (builder : Builder) : Program Bool := do
  Program.check builder.sound
  let rows ← Program.fetch ⟨builder.dialect.existence builder.query, builder.bindings.flatten⟩
  return ((leadingInteger? rows).getD 0) ≠ 0

/-! Aggregates -/

/-- The value of a function of columns; NULL counts as none. -/
def aggregateValue (builder : Builder) (function : String) (columns : List String) :
    Program (Option Value) := do
  let rows ← (builder.aggregate function columns).get
  return (rows.head?.bind Row.first?).filter fun value => !value.isNull

def count (builder : Builder) (column : String) : Program Int := do
  return ((← builder.aggregateValue "count" [column]).bind Value.integer?).getD 0

def minimum (builder : Builder) (column : String) : Program (Option Value) :=
  builder.aggregateValue "min" [column]

def maximum (builder : Builder) (column : String) : Program (Option Value) :=
  builder.aggregateValue "max" [column]

/-- The sum of no rows is zero. -/
def sum (builder : Builder) (column : String) : Program Value := do
  return (← builder.aggregateValue "sum" [column]).getD (.integer 0)

def average (builder : Builder) (column : String) : Program (Option Double) := do
  return (← builder.aggregateValue "avg" [column]).bind Value.double?

/-! Pages -/

/-- The builder without its own order and window, and without what is bound to the order. -/
def unwindowed (builder : Builder) : Builder :=
  { builder with
    query := { builder.query with window := {} }
    bindings := builder.bindings.set .order [] }

def countGroups (builder : Builder) : Program Int := do
  let inner ← Program.check builder.sql
  let rows ← Program.fetch
    ⟨"SELECT COUNT(*) AS aggregate FROM (" ++ inner ++ ") AS " ++
      builder.dialect.quoted "aggregate_table", builder.bindings.flatten⟩
  return (leadingInteger? rows).getD 0

/-- The number of rows that the pages of the result have together. -/
def countForPages (builder : Builder) : Program Int :=
  let builder := builder.unwindowed
  if builder.query.groups = [] then builder.count "*" else builder.countGroups

def paginate (builder : Builder) (perPage page : Nat) : Program CountedPage := do
  let total := (← builder.countForPages).toNat
  let items ← if total = 0 then pure [] else (builder.forPage page perPage).get
  return CountedPage.make items total perPage page

def simplePaginate (builder : Builder) (perPage page : Nat) : Program PeekedPage := do
  let peeked := (builder.forPage page perPage).changeWindow fun window =>
    { window with limit := some (saturatingAdd perPage 1) }
  return PeekedPage.make (← peeked.get) perPage page

end Builder

/-- What is left to read of a result that is read in chunks. -/
structure Chunks where
  builder : Builder
  size : Nat
  page : Nat
  finished : Bool

def Builder.chunks (builder : Builder) (size : Nat) : Chunks :=
  ⟨builder, size, 1, size = 0⟩

namespace Chunks

/-- The next chunk and what is left behind it. A chunk that is not full is the last one. -/
def next (chunks : Chunks) : Program (Option (List Row × Chunks)) := do
  if chunks.finished then return none
  let rows ← (chunks.builder.forPage chunks.page chunks.size).get
  if rows.isEmpty then return none
  return some (rows, { chunks with page := chunks.page + 1, finished := rows.length < chunks.size })

/-- Reads chunks until there are none left, until one fails, or until `limit` of them are read. -/
def read [Monad m] (perform : {α : Type} → Program α → m (Except Error α)) (limit : Nat)
    (chunks : Chunks) : m (List (Except Error (List Row))) :=
  match limit with
  | 0 => pure []
  | limit + 1 => do
      match ← perform chunks.next with
      | .error error => pure [.error error]
      | .ok none => pure []
      | .ok (some (rows, rest)) => return .ok rows :: (← read perform limit rest)

end Chunks

end SqlToolkit
