import SqlToolkit.Value
/-!
Rows of a result: column names beside their values, in the order of the select list.
-/

namespace SqlToolkit

structure Row where
  columns : List String
  values : List Value
  deriving DecidableEq, Repr

namespace Row

/-- A row with one value for each column: missing values are NULL, and superfluous ones are dropped. -/
def make (columns : List String) (values : List Value) : Row :=
  ⟨columns, values.take columns.length ++
    List.replicate (columns.length - values.length) Value.null⟩

def pairs (row : Row) : List (String × Value) :=
  row.columns.zip row.values

def get? (row : Row) (column : String) : Option Value :=
  row.pairs.lookup column

def first? (row : Row) : Option Value :=
  row.values.head?

def size (row : Row) : Nat :=
  row.columns.length

def isEmpty (row : Row) : Bool :=
  row.columns.isEmpty

end Row

/-- The whole number in the first column of the first row. -/
def leadingInteger? (rows : List Row) : Option Int :=
  rows.head?.bind fun row => row.first?.bind Value.integer?

end SqlToolkit
