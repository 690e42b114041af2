import SqlToolkit.Document.Basic
/-!
Instructions written as documents: a list of a name and its arguments, such as
`["where", "votes", ">", 100]`, or a name alone. An argument that is missing is null.
-/

namespace SqlToolkit

structure Instruction where
  name : String
  arguments : List Document

namespace Instruction

def ofDocument? : Document → Option Instruction
  | .text name => some ⟨name, []⟩
  | .list (.text name :: arguments) => some ⟨name, arguments⟩
  | _ => none

def argument (instruction : Instruction) (place : Nat) : Document :=
  instruction.arguments.getD place .null

end Instruction

namespace Document

def items? (read : Document → Option α) : Document → Option (List α)
  | null => some []
  | document => document.listOf? read

def nullable? (read : Document → Option α) : Document → Option (Option α)
  | null => some none
  | document => some <$> read document

/-- A count or a size; a negative number stands for none. -/
def count? (document : Document) : Option Nat :=
  Int.toNat <$> document.integer?

/-- What stands under a key; null stands for what is missing. -/
def at? (document : Document) (key : String) : Document :=
  (document.entry? key).getD null

/-- A choice that is not taken where it is null. -/
def flag? : Document → Option Bool
  | null => some false
  | document => document.boolean?

end Document

end SqlToolkit
