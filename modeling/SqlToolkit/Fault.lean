import SqlToolkit.Dialect
/-!
Faults: the arguments that a builder, a statement or a schema change refuses, and the wording of
each.
-/

namespace SqlToolkit

inductive Fault where
  | invalidOperator (operator : String)
  | nullComparison (operator : String)
  | negativeLimit (limit : Int)
  | joinWithoutCondition
  | joinWithoutColumn
  | unknownBinding (name : String)
  | unknownDirection (name : String)
  | detached
  | noTable
  | noRecord
  | unequalColumns
  | noAssignment
  | joinedUpdate (vendor : Vendor)
  | joinedDelete (vendor : Vendor)
  | changeWithoutColumns (table : String)
  | dropPrimary (table : String)
  | dropForeign (index table : String)
  | noTransaction
  /-- The whole wording of another fault, given as the reason of this one. -/
  | restated (fault : Fault)
  /-- A reason given by the caller. -/
  | stated (reason : String)
  deriving DecidableEq, Repr

def Fault.reason : Fault → String
  | invalidOperator operator => "invalid operator: " ++ operator
  | nullComparison operator =>
      "illegal operator and value combination: " ++ operator ++ " NULL"
  | negativeLimit limit => "limit must not be negative, got " ++ toString limit
  | joinWithoutCondition => "join requires at least one condition"
  | joinWithoutColumn => "join condition is missing its column"
  | unknownBinding name => "invalid binding type: " ++ name
  | unknownDirection name => "invalid order direction: " ++ name
  | detached => "query builder is not bound to a connection"
  | noTable => "no table selected"
  | noRecord => "insert requires at least one record"
  | unequalColumns => "every inserted record must have the same columns"
  | noAssignment => "update requires at least one column"
  | joinedUpdate vendor => vendor.name ++ " does not support joins in UPDATE"
  | joinedDelete vendor => vendor.name ++ " does not support joins in DELETE"
  | changeWithoutColumns table => "cannot change columns of " ++ table ++ ": table has no columns"
  | dropPrimary table => "SQLite cannot drop the primary key of " ++ table
  | dropForeign index table => "SQLite cannot drop foreign key " ++ index ++ " of " ++ table
  | noTransaction => "no active transaction to commit"
  | restated fault => "invalid argument: " ++ fault.reason
  | stated reason => reason

def Fault.message (fault : Fault) : String :=
  "invalid argument: " ++ fault.reason

end SqlToolkit
