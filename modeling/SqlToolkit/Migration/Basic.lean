import SqlToolkit.Connection.Connections
import SqlToolkit.Migration.Files
/-!
Migrations: changes of a database that can be carried out and undone, registered under class names,
and the errors that can stand in their way.
-/

namespace SqlToolkit

def underscoreSegments : List Char → List (List Char)
  | [] => [[]]
  | c :: rest =>
      match underscoreSegments rest with
      | segment :: more => if c = '_' then [] :: segment :: more else (c :: segment) :: more
      | [] => []

def capitalized : List Char → List Char
  | [] => []
  | first :: rest => Text.upperChar first ++ rest

/-- The class name of an identifier: its segments capitalised and joined, without the numerals in
front. -/
def className (identifier : String) : String :=
  let segments := (underscoreSegments identifier.toList).dropWhile (·.all Char.isDigit)
  String.ofList (segments.flatMap capitalized)

structure Migration (σ : Type) where
  up : Action σ Unit
  down : Action σ Unit
  /-- The connection that it changes, if it is not the usual one. -/
  connection : Option String := none
  /-- Whether it runs inside a transaction. -/
  transactional : Bool := true

inductive MigrationError where
  | database (error : Error)
  | unresolved (identifier name : String)
  | noFolder (folder : Path)
  | alreadyExists (file : Path)
  | invalidName (name : String)
  /-- A file that cannot be read or written. -/
  | fileSystem
  | configuration

def MigrationError.message : MigrationError → String
  | database error => error.message
  | unresolved identifier name =>
      "Migration '" ++ identifier ++ "' cannot be resolved: no migration registered as '" ++ name ++
        "'"
  | noFolder folder => "Migrations directory not found: " ++ folder.text
  | alreadyExists file => "Migration already exists: " ++ file.text
  | invalidName name =>
      "Invalid migration name '" ++ name ++ "': use lowercase letters, digits and underscores"
  | fileSystem => "IO error"
  | configuration => "Invalid configuration"

/-- Migrations by class name, each name once. -/
structure MigrationRegistry (σ : Type) where
  migrations : List (String × Migration σ) := []

namespace MigrationRegistry

/-- Registers a migration, in the place of a former one of its name. -/
def register (registry : MigrationRegistry σ) (name : String) (migration : Migration σ) :
    MigrationRegistry σ :=
  ⟨registry.migrations.filter (fun entry => entry.1 ≠ name) ++ [(name, migration)]⟩

def size (registry : MigrationRegistry σ) : Nat :=
  registry.migrations.length

def isEmpty (registry : MigrationRegistry σ) : Bool :=
  registry.migrations.isEmpty

def resolve (registry : MigrationRegistry σ) (identifier : String) :
    Except MigrationError (Migration σ) :=
  match registry.migrations.lookup (className identifier) with
  | some migration => .ok migration
  | none => .error (.unresolved identifier (className identifier))

def names (registry : MigrationRegistry σ) : List String :=
  (registry.migrations.map (·.1)).mergeSort (· ≤ ·)

def summary (registry : MigrationRegistry σ) : String :=
  "MigrationRegistry \x7b migrations: [" ++
    ", ".intercalate (registry.names.map Text.escaped) ++ "] \x7d"

end MigrationRegistry

/-- The identifiers of the migrations in a folder that has to be there. -/
def FileTree.discover (tree : FileTree) (folder : Path) : Except MigrationError (List String) :=
  if tree.isFolder folder then .ok (tree.migrations folder) else .error (.noFolder folder)

end SqlToolkit
