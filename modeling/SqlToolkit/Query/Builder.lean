import SqlToolkit.Query.Write
/-!
Builders: a query that grows call by call, together with its bindings. A call whose arguments are
refused leaves the query as it is and leaves a fault behind; the first fault is kept, and every
statement that is made of the builder later reports it.
-/

namespace SqlToolkit

open Number

/-- A direction by its name, in any case. -/
def Direction.ofName (name : String) : Except Fault Direction :=
  match Text.asciiLower name with
  | "asc" => .ok .ascending
  | "desc" => .ok .descending
  | _ => .error (.unknownDirection name)

structure Builder where
  dialect : Dialect
  query : Query := {}
  bindings : Bindings := {}
  fault : Option Fault := none

namespace Builder

def fresh (builder : Builder) : Builder :=
  { dialect := builder.dialect }

def fail (builder : Builder) (fault : Fault) : Builder :=
  { builder with fault := builder.fault.or (some fault) }

/-- Takes over the fault of a builder that becomes a part of this one. -/
def absorb (builder other : Builder) : Builder :=
  { builder with fault := builder.fault.or other.fault }

def change (builder : Builder) (f : Query → Query) : Builder :=
  { builder with query := f builder.query }

def bind (builder : Builder) (bucket : Bucket) (values : List Value) : Builder :=
  { builder with bindings := builder.bindings.extend bucket values }

/-- Refuses an operator that the vendor does not know. -/
def checked (builder : Builder) (operator : String) (next : Builder) : Builder :=
  if builder.dialect.vendor.knowsOperator operator then next
  else builder.fail (.invalidOperator operator)

/-! Bindings by hand -/

def setBindings (builder : Builder) (values : List Value) (bucket : String) : Builder :=
  match Bucket.ofName bucket with
  | .ok bucket => { builder with bindings := builder.bindings.set bucket values }
  | .error fault => builder.fail (.restated fault)

def addBinding (builder : Builder) (value : Value) (bucket : String) : Builder :=
  match Bucket.ofName bucket with
  | .ok bucket => builder.bind bucket [value]
  | .error fault => builder.fail (.restated fault)

def mergeBindings (builder other : Builder) : Builder :=
  { builder with bindings := builder.bindings.merge other.bindings }

def mergeWheres (builder : Builder) (wheres : List Clause) (values : List Value) : Builder :=
  (builder.change fun query => { query with wheres := query.wheres ++ wheres }).bind .filter values

/-! The select list and the table -/

def select (builder : Builder) (columns : List Identifier) : Builder :=
  builder.change fun query => { query with columns }

def addSelect (builder : Builder) (columns : List Identifier) : Builder :=
  builder.change fun query => { query with columns := query.columns ++ columns }

def selectRaw (builder : Builder) (sql : String) (values : List Value) : Builder :=
  (builder.addSelect [.verbatim sql]).bind .projection values

/-- A select in parentheses as one column. -/
def selectQuery (builder sub : Builder) (shown : String) : Builder :=
  let dialect := builder.dialect
  (builder.absorb sub).selectRaw
    ("(" ++ dialect.select sub.query ++ ") AS " ++ dialect.quoted shown) sub.bindings.flatten

def distinct (builder : Builder) : Builder :=
  builder.change fun query => { query with distinct := true }

def table (builder : Builder) (table : Identifier) : Builder :=
  builder.change fun query => { query with table := some table }

/-! Joins -/

/-- The first fault of the conditions of a join, in their order. -/
def conditionsFault (vendor : Vendor) : List JoinCondition → Option Fault
  | [] => none
  | condition :: rest =>
      if condition.first.text = "" then some .joinWithoutColumn
      else if vendor.knowsOperator condition.operator then conditionsFault vendor rest
      else some (.invalidOperator condition.operator)

/-- Only a cross join needs no condition. -/
def joinFault (vendor : Vendor) (join : Join) : Option Fault :=
  if join.kind ≠ .cross ∧ join.conditions = [] then some .joinWithoutCondition
  else conditionsFault vendor join.conditions

def join (builder : Builder) (join : Join) : Builder :=
  match joinFault builder.dialect.vendor join with
  | some fault => builder.fail fault
  | none =>
      (builder.bind .join join.bindings).change fun query =>
        { query with joins := query.joins ++ [join] }

/-! Predicates -/

def addWhere (builder : Builder) (connective : Connective) (predicate : Predicate) : Builder :=
  builder.change fun query => { query with wheres := query.wheres ++ [⟨connective, predicate⟩] }

/-- NULL is compared by `IS NULL`, and only for equality. -/
def whereCompare (builder : Builder) (connective : Connective) (column : Identifier)
    (operator : String) (operand : Operand) : Builder :=
  if operand.isNull then
    if operator = "=" then builder.addWhere connective (.isNull false column)
    else if operator = "!=" ∨ operator = "<>" then builder.addWhere connective (.isNull true column)
    else builder.fail (.nullComparison operator)
  else
    builder.checked operator
      ((builder.bind .filter operand.bindings).addWhere connective (.compare column operator operand))

/-- Adds the predicates of another builder as one group, if it has any. -/
def whereGroupOf (builder : Builder) (connective : Connective) (nested : Builder) : Builder :=
  let builder := builder.absorb nested
  if nested.query.wheres.isEmpty then builder
  else
    (builder.bind .filter nested.bindings.filter).addWhere connective (.group nested.query.wheres)

/-- Adds the predicates that `build` puts on an empty builder of the same table as one group. -/
def whereGroup (builder : Builder) (connective : Connective) (build : Builder → Builder) : Builder :=
  builder.whereGroupOf connective
    (build (builder.fresh.change fun query => { query with table := builder.query.table }))

def whereAll (builder : Builder) (conditions : List (Identifier × String × Operand)) : Builder :=
  builder.whereGroup .and fun nested =>
    conditions.foldl (fun nested (column, operator, operand) =>
      nested.whereCompare .and column operator operand) nested

/-- Equality for each column of a record. -/
def whereRecord (builder : Builder) (record : Record) : Builder :=
  builder.whereAll (record.entries.map fun (column, operand) => (.named column, "=", operand))

def whereQuery (builder : Builder) (connective : Connective) (column : Identifier)
    (operator : String) (sub : Builder) : Builder :=
  builder.checked operator
    (((builder.absorb sub).bind .filter sub.bindings.flatten).addWhere connective
      (.compareQuery column operator sub.query))

def whereColumns (builder : Builder) (connective : Connective) (first : Identifier)
    (operator : String) (second : Identifier) : Builder :=
  builder.checked operator
    (builder.addWhere connective (.compareColumns first operator second))

def whereIn (builder : Builder) (connective : Connective) (negated : Bool) (column : Identifier)
    (operands : List Operand) : Builder :=
  (builder.bind .filter (operands.flatMap Operand.bindings)).addWhere connective
    (.inList negated column operands)

def whereInQuery (builder : Builder) (connective : Connective) (negated : Bool)
    (column : Identifier) (sub : Builder) : Builder :=
  ((builder.absorb sub).bind .filter sub.bindings.flatten).addWhere connective
    (.inQuery negated column sub.query)

def whereNull (builder : Builder) (connective : Connective) (negated : Bool) (column : Identifier) :
    Builder :=
  builder.addWhere connective (.isNull negated column)

def whereBetween (builder : Builder) (connective : Connective) (negated : Bool)
    (column : Identifier) (low high : Operand) : Builder :=
  (builder.bind .filter (low.bindings ++ high.bindings)).addWhere connective
    (.between negated column low high)

def whereExists (builder : Builder) (connective : Connective) (negated : Bool) (sub : Builder) :
    Builder :=
  ((builder.absorb sub).bind .filter sub.bindings.flatten).addWhere connective
    (.exists negated sub.query)

def whereDate (builder : Builder) (connective : Connective) (part : DatePart) (column : Identifier)
    (operator : String) (operand : Operand) : Builder :=
  let operand := match operand with
    | .bound value => .bound (builder.dialect.datePartValue part value)
    | .verbatim sql => .verbatim sql
  builder.checked operator
    ((builder.bind .filter operand.bindings).addWhere connective
      (.compareDate part column operator operand))

def whereRaw (builder : Builder) (connective : Connective) (sql : String) (values : List Value) :
    Builder :=
  (builder.bind .filter values).addWhere connective (.raw sql)

/-- Puts the predicates from a place on into one group, chained as the first of them was. -/
def groupFrom (place : Nat) (wheres : List Clause) : List Clause :=
  match wheres.drop place with
  | [] => wheres
  | first :: rest => wheres.take place ++ [⟨first.connective, .group (first :: rest)⟩]

/-- Runs a scope on the builder. Predicates that it adds behind others are added as one group, so
that an OR between them stays between them. -/
def applyScope (builder : Builder) (scope : Builder → Builder) : Builder :=
  let before := builder.query.wheres.length
  if before = 0 then scope builder
  else (scope builder).change fun query => { query with wheres := groupFrom before query.wheres }

/-! Groups -/

def groupBy (builder : Builder) (columns : List Identifier) : Builder :=
  builder.change fun query => { query with groups := query.groups ++ columns }

def addHaving (builder : Builder) (connective : Connective) (predicate : Predicate) : Builder :=
  builder.change fun query => { query with havings := query.havings ++ [⟨connective, predicate⟩] }

def having (builder : Builder) (connective : Connective) (column : Identifier) (operator : String)
    (operand : Operand) : Builder :=
  builder.checked operator
    ((builder.bind .having operand.bindings).addHaving connective
      (.compare column operator operand))

def havingRaw (builder : Builder) (connective : Connective) (sql : String) (values : List Value) :
    Builder :=
  (builder.bind .having values).addHaving connective (.raw sql)

/-! Order and window -/

/-- Changes the window of the whole union once there are branches, and the query's own before. -/
def changeWindow (builder : Builder) (f : Window → Window) : Builder :=
  builder.change fun query =>
    if query.unions.isEmpty then { query with window := f query.window }
    else { query with unionWindow := f query.unionWindow }

def addOrder (builder : Builder) (order : Order) : Builder :=
  builder.changeWindow fun window => { window with orders := window.orders ++ [order] }

def orderBy (builder : Builder) (column : Identifier) (direction : Direction) : Builder :=
  builder.addOrder (.column column direction)

def orderByRaw (builder : Builder) (sql : String) (values : List Value) : Builder :=
  let bucket := if builder.query.unions.isEmpty then .order else .union
  (builder.bind bucket values).addOrder (.raw sql)

def limit (builder : Builder) (count : Int) : Builder :=
  if count < 0 then builder.fail (.negativeLimit count)
  else builder.changeWindow fun window => { window with limit := some count.toNat }

/-- A negative offset counts as none at all. -/
def offset (builder : Builder) (count : Int) : Builder :=
  builder.changeWindow fun window => { window with offset := some count.toNat }

/-- The window of one page; pages count from one. -/
def forPage (builder : Builder) (page perPage : Nat) : Builder :=
  builder.changeWindow fun window =>
    { window with offset := some (saturatingMul (page - 1) perPage), limit := some perPage }

/-! Unions and locks -/

def union (builder : Builder) (keepsDuplicates : Bool) (other : Builder) : Builder :=
  ((builder.absorb other).bind .union other.bindings.flatten).change fun query =>
    { query with unions := query.unions ++ [⟨other.query, keepsDuplicates⟩] }

def lock (builder : Builder) (lock : Lock) : Builder :=
  builder.change fun query => { query with lock := some lock }

/-! Statements -/

/-- Replaces the select list, and what is bound to it, by a function of columns. -/
def aggregate (builder : Builder) (function : String) (columns : List String) : Builder :=
  { builder with
    bindings := builder.bindings.set .projection []
    query := { builder.query with
      columns := []
      aggregate := some ⟨function, columns.map Identifier.named⟩ } }

/-- Continues only without a fault. -/
def sound (builder : Builder) : Except Fault Unit :=
  match builder.fault with
  | some fault => .error fault
  | none => .ok ()

def sql (builder : Builder) : Except Fault String := do
  builder.sound
  return builder.dialect.select builder.query

def statement (builder : Builder) : Except Fault Statement := do
  return ⟨← builder.sql, builder.bindings.flatten⟩

end Builder

end SqlToolkit
