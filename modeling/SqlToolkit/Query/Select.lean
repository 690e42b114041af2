import SqlToolkit.Dialect
import SqlToolkit.Query.Basic
/-!
The text of a select statement. Clauses are written in one fixed order, each by its own function;
vendors differ in limits, locks, date parts and the brackets around the branches of a union.
-/

namespace SqlToolkit

/-- The comparison operators that a vendor knows, in small letters. -/
def Vendor.operators : Vendor → List String
  | .sqlite =>
      ["=", "<", ">", "<=", ">=", "<>", "!=", "like", "not like", "between", "ilike", "&", "|",
        "<<", ">>", "glob", "not glob"]
  | .mysql =>
      ["=", "<", ">", "<=", ">=", "<>", "!=", "<=>", "like", "like binary", "not like", "between",
        "&", "|", "^", "<<", ">>", "rlike", "regexp", "not regexp", "sounds like"]
  | .postgres =>
      ["=", "<", ">", "<=", ">=", "<>", "!=", "like", "not like", "between", "ilike", "not ilike",
        "~~*", "!~~*", "&", "|", "#", "<<", ">>", "@>", "<@", "&&", "~", "~*", "!~", "!~*",
        "similar to", "not similar to"]

/-- An operator is known in any case of its letters. -/
def Vendor.knowsOperator (vendor : Vendor) (operator : String) : Bool :=
  vendor.operators.contains (Text.asciiLower operator)

def chain : List (Connective × String) → String
  | [] => ""
  | (_, first) :: rest =>
      " ".intercalate (first :: rest.map fun (connective, text) => connective.text ++ " " ++ text)

/-- A list of predicates behind its keyword; no predicates have no clause. -/
def headed (word : String) (clauses : List (Connective × String)) : String :=
  if clauses.isEmpty then "" else word ++ " " ++ chain clauses

namespace Dialect

def joinTarget (dialect : Dialect) : JoinTarget → String
  | .column column => dialect.columnRef column
  | .value operand => dialect.parameter operand

def joinCondition (dialect : Dialect) (condition : JoinCondition) : String :=
  dialect.columnRef condition.first ++ " " ++ condition.operator ++ " " ++
    dialect.joinTarget condition.second

def joinConditions (dialect : Dialect) (join : Join) : String :=
  chain (join.conditions.map fun condition =>
    (condition.connective, dialect.joinCondition condition))

/-- A cross join without conditions has no ON. -/
def join (dialect : Dialect) (join : Join) : String :=
  let table := dialect.tableRef join.table
  if join.kind = .cross ∧ join.conditions = [] then "CROSS JOIN " ++ table
  else join.kind.text ++ " JOIN " ++ table ++ " ON " ++ dialect.joinConditions join

def joins (dialect : Dialect) (joins : List Join) : String :=
  " ".intercalate (joins.map dialect.join)

def datePart (dialect : Dialect) (part : DatePart) (column : String) : String :=
  match dialect.vendor with
  | .sqlite =>
      let format := match part with
        | .date => "%Y-%m-%d"
        | .day => "%d"
        | .month => "%m"
        | .year => "%Y"
      "strftime('" ++ format ++ "', " ++ column ++ ")"
  | .mysql =>
      let function := match part with
        | .date => "DATE"
        | .day => "DAY"
        | .month => "MONTH"
        | .year => "YEAR"
      function ++ "(" ++ column ++ ")"
  | .postgres =>
      match part with
      | .date => column ++ "::date"
      | .day => "extract(day from " ++ column ++ ")"
      | .month => "extract(month from " ++ column ++ ")"
      | .year => "extract(year from " ++ column ++ ")"

/-- A signed number with zeros between its sign and its digits up to a width. -/
def paddedInteger (width : Nat) (n : Int) : String :=
  if n < 0 then "-" ++ padded (width - 1) n.natAbs else padded width n.toNat

/-- The value to compare with a part of a date. SQLite yields the parts as text with zeros in
front. -/
def datePartValue (dialect : Dialect) (part : DatePart) (value : Value) : Value :=
  let padding (width : Nat) : Value :=
    match value.integer? with
    | some n => .text (paddedInteger width n)
    | none => value
  match dialect.vendor, part with
  | .sqlite, .day => padding 2
  | .sqlite, .month => padding 2
  | .sqlite, .year => padding 4
  | _, _ => value

def aggregate (dialect : Dialect) (distinct : Bool) (aggregate : Aggregate) : String :=
  let columns := dialect.columnRefs aggregate.columns
  let columns := if columns = "" then "*" else columns
  let columns := if distinct ∧ columns ≠ "*" then "DISTINCT " ++ columns else columns
  "SELECT " ++ Text.asciiUpper aggregate.function ++ "(" ++ columns ++ ") AS aggregate"

def selectList (dialect : Dialect) (distinct : Bool) (columns : List Identifier) : String :=
  let select := if distinct then "SELECT DISTINCT" else "SELECT"
  if columns = [] then select ++ " *" else select ++ " " ++ dialect.columnRefs columns

/-- The aggregate if there is one, else the select list. -/
def projection (dialect : Dialect) (distinct : Bool) (columns : List Identifier) :
    Option Aggregate → String
  | some aggregate => dialect.aggregate distinct aggregate
  | none => dialect.selectList distinct columns

def fromClause (dialect : Dialect) : Option Identifier → String
  | some table => "FROM " ++ dialect.tableRef table
  | none => ""

def groupClause (dialect : Dialect) (groups : List Identifier) : String :=
  if groups = [] then "" else "GROUP BY " ++ dialect.columnRefs groups

def order (dialect : Dialect) : Order → String
  | .column column direction => dialect.columnRef column ++ " " ++ direction.text
  | .raw sql => sql

def orderClause (dialect : Dialect) (orders : List Order) : String :=
  if orders = [] then "" else "ORDER BY " ++ ", ".intercalate (orders.map dialect.order)

/-- An offset alone needs a limit in SQLite and MySQL: one that takes all rows. -/
def limitClause (dialect : Dialect) (window : Window) : String :=
  match window.limit, window.offset, dialect.vendor with
  | some limit, _, _ => "LIMIT " ++ toString limit
  | none, some _, .sqlite => "LIMIT -1"
  | none, some _, .mysql => "LIMIT 18446744073709551615"
  | none, _, _ => ""

def offsetClause (window : Window) : String :=
  match window.offset with
  | some offset => "OFFSET " ++ toString offset
  | none => ""

def windowClauses (dialect : Dialect) (window : Window) : List String :=
  [dialect.orderClause window.orders, dialect.limitClause window, offsetClause window]

/-- One side of a union; MySQL puts it in parentheses. -/
def unionSide (dialect : Dialect) (sql : String) : String :=
  match dialect.vendor with
  | .mysql => "(" ++ sql ++ ")"
  | _ => sql

/-- SQLite has no row locks. -/
def lockClause (dialect : Dialect) (lock : Lock) : String :=
  match dialect.vendor, lock with
  | _, .raw sql => sql
  | .sqlite, _ => ""
  | _, .forUpdate => "FOR UPDATE"
  | .mysql, .shared => "LOCK IN SHARE MODE"
  | .postgres, .shared => "FOR SHARE"

/-- A select with its branches and the window of the union behind it. -/
def united (dialect : Dialect) (main : String) (branches : List String) (window : Window) : String :=
  if branches = [] then main
  else joinParts (dialect.unionSide main :: [joinParts (branches ++ dialect.windowClauses window)])

def locked (dialect : Dialect) (sql : String) : Option Lock → String
  | some lock => joinParts [sql, dialect.lockClause lock]
  | none => sql

def negation (negated : Bool) : String :=
  if negated then "NOT " else ""

mutual

def select (dialect : Dialect) : Query → String
  | ⟨columns, distinct, table, joins, wheres, groups, havings, window, unions, unionWindow, lock,
      aggregate⟩ =>
      let main := joinParts ([dialect.projection distinct columns aggregate,
        dialect.fromClause table, dialect.joins joins, headed "WHERE" (dialect.clauses wheres),
        dialect.groupClause groups, headed "HAVING" (dialect.clauses havings)] ++
        dialect.windowClauses window)
      dialect.locked (dialect.united main (dialect.branches unions) unionWindow) lock

def branches (dialect : Dialect) : List Branch → List String
  | [] => []
  | ⟨query, keepsDuplicates⟩ :: rest =>
      ((if keepsDuplicates then "UNION ALL " else "UNION ") ++
        dialect.unionSide (dialect.select query)) :: dialect.branches rest

def clauses (dialect : Dialect) : List Clause → List (Connective × String)
  | [] => []
  | ⟨connective, predicate⟩ :: rest =>
      (connective, dialect.predicate predicate) :: dialect.clauses rest

/-- An empty list of values is never matched, and always by its negation. -/
def predicate (dialect : Dialect) : Predicate → String
  | .compare column operator operand =>
      dialect.columnRef column ++ " " ++ operator ++ " " ++ dialect.parameter operand
  | .compareColumns first operator second =>
      dialect.columnRef first ++ " " ++ operator ++ " " ++ dialect.columnRef second
  | .group members => "(" ++ chain (dialect.clauses members) ++ ")"
  | .compareQuery column operator query =>
      dialect.columnRef column ++ " " ++ operator ++ " (" ++ dialect.select query ++ ")"
  | .inList negated column operands =>
      if operands = [] then (if negated then "1 = 1" else "0 = 1")
      else
        dialect.columnRef column ++ " " ++ negation negated ++ "IN (" ++
          dialect.parameters operands ++ ")"
  | .inQuery negated column query =>
      dialect.columnRef column ++ " " ++ negation negated ++ "IN (" ++ dialect.select query ++ ")"
  | .isNull negated column =>
      dialect.columnRef column ++ " IS " ++ negation negated ++ "NULL"
  | .between negated column low high =>
      dialect.columnRef column ++ " " ++ negation negated ++ "BETWEEN " ++ dialect.parameter low ++
        " AND " ++ dialect.parameter high
  | .exists negated query => negation negated ++ "EXISTS (" ++ dialect.select query ++ ")"
  | .compareDate part column operator operand =>
      dialect.datePart part (dialect.columnRef column) ++ " " ++ operator ++ " " ++
        dialect.parameter operand
  | .raw sql => sql

end

def whereClause (dialect : Dialect) (wheres : List Clause) : String :=
  headed "WHERE" (dialect.clauses wheres)

/-- Whether a query has any rows, as one column named `exists`. -/
def existence (dialect : Dialect) (query : Query) : String :=
  "SELECT EXISTS(" ++ dialect.select query ++ ") AS " ++ dialect.quoted "exists"

end Dialect

end SqlToolkit
