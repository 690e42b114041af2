import SqlToolkit.Value
/-!
What stands in a statement at the place of a name or of a value: a name that is quoted, a value that
is bound, or a fragment of SQL that is written as it is.
-/

namespace SqlToolkit

/-- A reference to a column or a table: a name, possibly dotted and with an alias, or SQL. -/
inductive Identifier where
  | named (name : String)
  | verbatim (sql : String)
  deriving DecidableEq, Repr

def Identifier.text : Identifier → String
  | named name => name
  | verbatim sql => sql

/-- The right side of a comparison or an assignment: a value to bind, or SQL. -/
inductive Operand where
  | bound (value : Value)
  | verbatim (sql : String)
  deriving DecidableEq, Repr

namespace Operand

def binding? : Operand → Option Value
  | bound value => some value
  | verbatim _ => none

/-- A bound value is one binding, SQL is none. -/
def bindings (operand : Operand) : List Value :=
  operand.binding?.toList

def isNull : Operand → Bool
  | bound .null => true
  | _ => false

end Operand

end SqlToolkit
