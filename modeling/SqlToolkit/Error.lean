import SqlToolkit.Fault
/-!
Errors: the causes for which an operation on a database fails, and the wording of each.
-/

namespace SqlToolkit

inductive Error where
  | invalidArgument (fault : Fault)
  | unsupportedDriver (name : String)
  | missingPackage (name : String)
  /-- A statement that the database refused, with the words of the database. -/
  | query (statement : Statement) (reason : String)
  /-- A call other than a statement that the database refused. -/
  | driver (reason : String)
  | transactionActive (level : Nat)
  | noReconnector (connection : String)
  | notConfigured (connection : String)
  deriving DecidableEq, Repr

namespace Error

def message : Error → String
  | invalidArgument fault => fault.message
  | unsupportedDriver name => "unsupported driver: " ++ name
  | missingPackage name => "missing package for driver: " ++ name
  | query statement reason => reason ++ " (SQL: " ++ statement.sql ++ ")"
  | driver reason => "driver error: " ++ reason
  | transactionActive level =>
      "cannot change the connection while " ++ toString level ++ " transaction(s) are active"
  | noReconnector connection => "lost connection: connection [" ++ connection ++ "] has no reconnector"
  | notConfigured connection =>
      "configuration error: database [" ++ connection ++ "] not configured"

/-- The words of the database, where it was the database that failed. -/
def reason? : Error → Option String
  | query _ reason => some reason
  | driver reason => some reason
  | _ => none

end Error

end SqlToolkit
