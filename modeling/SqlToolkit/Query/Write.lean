import SqlToolkit.Query.Bindings
import SqlToolkit.Query.Select
import SqlToolkit.Record
import SqlToolkit.Text.Search
/-!
The statements that change rows: insert, update, delete and truncate, and the order in which an
update or a delete takes the values that are bound to a query.
-/

namespace SqlToolkit

/-- The columns of records that are written together; all records have them in one order. -/
def sharedColumns : List Record → Except Fault (List String)
  | [] => .error .noRecord
  | first :: rest =>
      if rest.all fun record => record.columns = first.columns then .ok first.columns
      else .error .unequalColumns

/-- PostgreSQL hands the key of a new row back as a row. -/
def Vendor.returnsKey : Vendor → Bool
  | .postgres => true
  | _ => false

namespace Dialect

def targetTable (dialect : Dialect) (query : Query) : Except Fault String :=
  match query.table with
  | some table => .ok (dialect.tableRef table)
  | none => .error .noTable

def insertDefaults (dialect : Dialect) (table : String) : String :=
  match dialect.vendor with
  | .mysql => "INSERT INTO " ++ table ++ " () VALUES ()"
  | _ => "INSERT INTO " ++ table ++ " DEFAULT VALUES"

def valuesTuple (dialect : Dialect) (record : Record) : String :=
  "(" ++ dialect.parameters record.operands ++ ")"

/-- A record as a select of its operands, each named for its column. -/
def valuesSelect (dialect : Dialect) (record : Record) : String :=
  "SELECT " ++ ", ".intercalate (record.entries.map fun (column, operand) =>
    dialect.parameter operand ++ " AS " ++ dialect.quoted column)

/-- The rows of an insert; SQLite takes several as a union of selects. -/
def insertRows (dialect : Dialect) (records : List Record) : String :=
  if dialect.vendor = .sqlite ∧ records.length ≠ 1 then
    " UNION ALL ".intercalate (records.map dialect.valuesSelect)
  else "VALUES " ++ ", ".intercalate (records.map dialect.valuesTuple)

def insert (dialect : Dialect) (query : Query) (records : List Record) : Except Fault String := do
  let table ← dialect.targetTable query
  let columns ← sharedColumns records
  if columns = [] then return dialect.insertDefaults table
  return "INSERT INTO " ++ table ++ " (" ++ dialect.columns columns ++ ") " ++
    dialect.insertRows records

/-- An insert of one row that makes its key known, from the column that holds the key. -/
def insertReturning (dialect : Dialect) (query : Query) (record : Record) (key : String) :
    Except Fault String := do
  let insert ← dialect.insert query [record]
  if dialect.vendor.returnsKey then return insert ++ " RETURNING " ++ dialect.column key
  return insert

def assignments (dialect : Dialect) (record : Record) : String :=
  ", ".intercalate (record.entries.map fun (column, operand) =>
    dialect.column column ++ " = " ++ dialect.parameter operand)

def joinedTables (dialect : Dialect) (joins : List Join) : String :=
  ", ".intercalate (joins.map fun join => dialect.tableRef join.table)

/-- The conditions of all joins, and behind them the predicates of the statement as one group. -/
def joinedWhere (dialect : Dialect) (joins : List Join) (wheres : List Clause) : String :=
  let conditions := " AND ".intercalate
    ((joins.filter fun join => join.conditions ≠ []).map dialect.joinConditions)
  if conditions = "" then dialect.whereClause wheres
  else if wheres.isEmpty then "WHERE " ++ conditions
  else "WHERE " ++ conditions ++ " AND (" ++ chain (dialect.clauses wheres) ++ ")"

/-- MySQL joins in front of SET, and orders and limits an update of one table; PostgreSQL lists the
joined tables in FROM; SQLite has no joins here. -/
def update (dialect : Dialect) (query : Query) (record : Record) : Except Fault String := do
  let table ← dialect.targetTable query
  if record.isEmpty then throw .noAssignment
  let set := "SET " ++ dialect.assignments record
  let wheres := dialect.whereClause query.wheres
  match dialect.vendor with
  | .sqlite =>
      if !query.joins.isEmpty then throw (.joinedUpdate .sqlite)
      return joinParts ["UPDATE " ++ table ++ " " ++ set, wheres]
  | .mysql =>
      if query.joins.isEmpty then
        return joinParts ["UPDATE " ++ table, set, wheres, dialect.orderClause query.window.orders,
          dialect.limitClause query.window]
      return joinParts ["UPDATE " ++ table, dialect.joins query.joins, set, wheres]
  | .postgres =>
      let update := "UPDATE " ++ table ++ " " ++ set
      if query.joins.isEmpty then return joinParts [update, wheres]
      return joinParts [update, "FROM " ++ dialect.joinedTables query.joins,
        dialect.joinedWhere query.joins query.wheres]

/-- The assigned values stand where SET does. -/
def updateBindings (dialect : Dialect) (query : Query) (bindings : Bindings) (record : Record) :
    List Value :=
  match dialect.vendor with
  | .mysql =>
      bindings.join ++ record.bindings ++ bindings.filter ++
        (if query.joins.isEmpty then bindings.order else [])
  | _ => record.bindings ++ bindings.join ++ bindings.filter

/-- The table that a joined delete of MySQL deletes from: its alias if it has one. -/
def deleteTarget (dialect : Dialect) : Identifier → String
  | .named name =>
      match Text.place? " as ".toList (Text.asciiLower name).toList with
      | some place =>
          let shown := Text.trim (name.toList.drop (place + " as ".length))
          dialect.quoted (dialect.tablePrefix ++ String.ofList shown)
      | none => dialect.table name
  | .verbatim sql => sql

def delete (dialect : Dialect) (query : Query) : Except Fault String := do
  let table ← dialect.targetTable query
  let wheres := dialect.whereClause query.wheres
  match dialect.vendor with
  | .sqlite =>
      if !query.joins.isEmpty then throw (.joinedDelete .sqlite)
      return joinParts ["DELETE FROM " ++ table, wheres]
  | .mysql =>
      if query.joins.isEmpty then
        return joinParts ["DELETE FROM " ++ table, wheres, dialect.orderClause query.window.orders,
          dialect.limitClause query.window]
      let target := (query.table.map dialect.deleteTarget).getD table
      return joinParts ["DELETE " ++ target ++ " FROM " ++ table, dialect.joins query.joins, wheres]
  | .postgres =>
      if query.joins.isEmpty then return joinParts ["DELETE FROM " ++ table, wheres]
      return joinParts ["DELETE FROM " ++ table ++ " USING " ++ dialect.joinedTables query.joins,
        dialect.joinedWhere query.joins query.wheres]

def deleteBindings (dialect : Dialect) (query : Query) (bindings : Bindings) : List Value :=
  bindings.join ++ bindings.filter ++
    (if dialect.vendor = .mysql ∧ query.joins.isEmpty then bindings.order else [])

/-- Emptying a table also sets the counter of its keys back. SQLite keeps the counters in a table of
its own. -/
def truncate (dialect : Dialect) (query : Query) : Except Fault (List Statement) := do
  let table ← dialect.targetTable query
  match dialect.vendor with
  | .sqlite =>
      let name := (query.table.map Identifier.text).getD ""
      return [⟨"DELETE FROM sqlite_sequence WHERE name = " ++ dialect.marker.text,
          [.text (dialect.tablePrefix ++ name)]⟩, ⟨"DELETE FROM " ++ table, []⟩]
  | .mysql => return [⟨"TRUNCATE " ++ table, []⟩]
  | .postgres => return [⟨"TRUNCATE " ++ table ++ " RESTART IDENTITY", []⟩]

end Dialect

end SqlToolkit
