import SqlToolkit.Number.Double
/-!
Documents: the tree of values that a JSON text or a configuration file stands for.
-/

namespace SqlToolkit

open Number

/-- A tree of named and listed values. The entries of a table are in key order, each key once. -/
inductive Document where
  | null
  | boolean (value : Bool)
  | integer (value : Int)
  | number (value : Double)
  | text (value : String)
  | list (items : List Document)
  | table (entries : List (String × Document))

instance : Coe String Document := ⟨.text⟩

instance : Coe Bool Document := ⟨.boolean⟩

instance : Coe Int Document := ⟨.integer⟩

instance : Coe Nat Document := ⟨fun n => .integer n⟩

namespace Document

def ofList (write : α → Document) (items : List α) : Document :=
  list (items.map write)

def ofTexts : List String → Document :=
  ofList text

def ofOption (write : α → Document) : Option α → Document
  | some value => write value
  | none => null

def ofText? : Option String → Document :=
  ofOption text

/-- Sets a key of a table in key order, replacing its former value. -/
def put (key : String) (value : Document) : List (String × Document) → List (String × Document)
  | [] => [(key, value)]
  | (other, old) :: rest =>
      if key = other then (key, value) :: rest
      else if key < other then (key, value) :: (other, old) :: rest
      else (other, old) :: put key value rest

def entry? (key : String) : Document → Option Document
  | table entries => entries.lookup key
  | _ => none

def text? : Document → Option String
  | text value => some value
  | _ => none

def integer? : Document → Option Int
  | integer value => some value
  | _ => none

def boolean? : Document → Option Bool
  | boolean value => some value
  | _ => none

/-- A whole number from zero up to a largest one. -/
def natural? (largest : Nat) : Document → Option Nat
  | integer value => if 0 ≤ value ∧ value ≤ largest then some value.toNat else none
  | _ => none

def listOf? (read : Document → Option α) : Document → Option (List α)
  | list items => items.mapM read
  | _ => none

def texts? : Document → Option (List String) :=
  listOf? text?

mutual

/-- How deep lists and tables lie in one another. -/
def depth : Document → Nat
  | list items => listDepth items + 1
  | table entries => tableDepth entries + 1
  | _ => 1

def listDepth : List Document → Nat
  | [] => 0
  | first :: rest => max first.depth (listDepth rest)

def tableDepth : List (String × Document) → Nat
  | [] => 0
  | (_, first) :: rest => max first.depth (tableDepth rest)

end

end Document

end SqlToolkit
