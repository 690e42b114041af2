import SqlToolkit.Expression
/-!
Queries: everything that a statement on one table is made of, apart from its bindings. Predicates
contain queries and queries contain predicates, so the types are mutual.
-/

namespace SqlToolkit

/-- How a predicate is chained to the one before it. -/
inductive Connective where
  | and
  | or
  deriving DecidableEq, Repr

def Connective.text : Connective → String
  | and => "AND"
  | or => "OR"

inductive JoinKind where
  | inner
  | left
  | right
  | cross
  deriving DecidableEq, Repr

def JoinKind.text : JoinKind → String
  | inner => "INNER"
  | left => "LEFT"
  | right => "RIGHT"
  | cross => "CROSS"

/-- The right side of a join condition. -/
inductive JoinTarget where
  | column (column : Identifier)
  | value (operand : Operand)
  deriving DecidableEq, Repr

def JoinTarget.bindings : JoinTarget → List Value
  | column _ => []
  | value operand => operand.bindings

structure JoinCondition where
  connective : Connective
  first : Identifier
  operator : String
  second : JoinTarget
  deriving DecidableEq, Repr

structure Join where
  kind : JoinKind
  table : Identifier
  conditions : List JoinCondition
  deriving DecidableEq, Repr

def Join.bindings (join : Join) : List Value :=
  join.conditions.flatMap fun condition => condition.second.bindings

/-- The part of a date that a predicate compares. -/
inductive DatePart where
  | date
  | day
  | month
  | year
  deriving DecidableEq, Repr

inductive Direction where
  | ascending
  | descending
  deriving DecidableEq, Repr

def Direction.text : Direction → String
  | ascending => "ASC"
  | descending => "DESC"

inductive Order where
  | column (column : Identifier) (direction : Direction)
  | raw (sql : String)
  deriving DecidableEq, Repr

/-- A function of columns that takes the place of the select list. -/
structure Aggregate where
  function : String
  columns : List Identifier
  deriving DecidableEq, Repr

inductive Lock where
  | shared
  | forUpdate
  | raw (sql : String)
  deriving DecidableEq, Repr

/-- The order of the rows and the part of them that is taken. -/
structure Window where
  orders : List Order := []
  limit : Option Nat := none
  offset : Option Nat := none
  deriving DecidableEq, Repr

mutual

inductive Predicate where
  | compare (column : Identifier) (operator : String) (operand : Operand)
  | compareColumns (first : Identifier) (operator : String) (second : Identifier)
  | group (members : List Clause)
  | compareQuery (column : Identifier) (operator : String) (query : Query)
  | inList (negated : Bool) (column : Identifier) (operands : List Operand)
  | inQuery (negated : Bool) (column : Identifier) (query : Query)
  | isNull (negated : Bool) (column : Identifier)
  | between (negated : Bool) (column : Identifier) (low high : Operand)
  | exists (negated : Bool) (query : Query)
  | compareDate (part : DatePart) (column : Identifier) (operator : String) (operand : Operand)
  | raw (sql : String)

/-- A predicate in a list; the connective of the first one is not written. -/
structure Clause where
  connective : Connective
  predicate : Predicate

structure Branch where
  query : Query
  keepsDuplicates : Bool

/-- An empty select list stands for all columns. -/
structure Query where
  columns : List Identifier := []
  distinct : Bool := false
  table : Option Identifier := none
  joins : List Join := []
  wheres : List Clause := []
  groups : List Identifier := []
  havings : List Clause := []
  window : Window := {}
  unions : List Branch := []
  unionWindow : Window := {}
  lock : Option Lock := none
  aggregate : Option Aggregate := none

end

end SqlToolkit
