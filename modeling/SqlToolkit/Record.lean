import SqlToolkit.Expression
/-!
Records: the columns of one row to write, each with its operand. A column keeps the place where it
was first set.
-/

namespace SqlToolkit

structure Record where
  entries : List (String × Operand)
  deriving DecidableEq, Repr

namespace Record

def empty : Record := ⟨[]⟩

/-- Replaces the operand of a column, or appends the column. -/
def insertEntry (column : String) (operand : Operand) :
    List (String × Operand) → List (String × Operand)
  | [] => [(column, operand)]
  | (other, old) :: rest =>
      if other = column then (other, operand) :: rest
      else (other, old) :: insertEntry column operand rest

def insert (record : Record) (column : String) (operand : Operand) : Record :=
  ⟨insertEntry column operand record.entries⟩

def ofList (entries : List (String × Operand)) : Record :=
  entries.foldl (fun record entry => record.insert entry.1 entry.2) empty

def get? (record : Record) (column : String) : Option Operand :=
  record.entries.lookup column

def columns (record : Record) : List String :=
  record.entries.map (·.1)

def operands (record : Record) : List Operand :=
  record.entries.map (·.2)

def bindings (record : Record) : List Value :=
  record.operands.flatMap Operand.bindings

/-- The entries in ascending order of their columns. -/
def sorted (record : Record) : Record :=
  ⟨record.entries.mergeSort fun left right => left.1 ≤ right.1⟩

/-- The entries of `other` win over equal columns. -/
def merge (record other : Record) : Record :=
  other.entries.foldl (fun record entry => record.insert entry.1 entry.2) record

def size (record : Record) : Nat :=
  record.entries.length

def isEmpty (record : Record) : Bool :=
  record.entries.isEmpty

end Record

end SqlToolkit
