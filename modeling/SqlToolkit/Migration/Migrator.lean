import SqlToolkit.Migration.Creation
import SqlToolkit.Migration.History
/-!
Carrying out and undoing the migrations of a folder in batches, with notes on what was done.
-/

namespace SqlToolkit

/-- The open connections, the files, and the notes on the operation that ran last. -/
structure Workspace (σ : Type) where
  connections : Connections σ
  files : FileTree := {}
  notes : List String := []

abbrev Migrating (σ : Type) := EStateM MigrationError (Workspace σ)

namespace Migrating

variable {σ α : Type}

def managing (action : Managing σ α) : Migrating σ α := fun workspace =>
  match action workspace.connections with
  | .ok value connections => .ok value { workspace with connections }
  | .error error connections => .error (.database error) { workspace with connections }

def filing (action : Filing α) : Migrating σ α := fun workspace =>
  match action workspace.files with
  | .ok value files => .ok value { workspace with files }
  | .error error files => .error error { workspace with files }

def note (text : String) : Migrating σ Unit :=
  modify fun workspace => { workspace with notes := workspace.notes ++ [text] }

def clearNotes : Migrating σ Unit :=
  modify fun workspace => { workspace with notes := [] }

def check (result : Except MigrationError α) : Migrating σ α :=
  match result with
  | .ok value => return value
  | .error error => throw error

/-- The identifiers of the migrations in a folder that has to be there. -/
def discover (folder : Path) : Migrating σ (List String) := do
  check ((← get).files.discover folder)

end Migrating

structure Migrator (σ : Type) where
  history : History := {}
  registry : MigrationRegistry σ
  /-- The connection of migrations that name none. -/
  connection : Option String := none

inductive Heading where
  | up
  | down
  deriving DecidableEq, Repr

def Migration.action (migration : Migration σ) : Heading → Action σ Unit
  | .up => migration.up
  | .down => migration.down

def Logged.text (logged : Logged) : String :=
  let statement := logged.statement
  if statement.bindings = [] then statement.sql
  else
    statement.sql ++ " [" ++ ", ".intercalate (statement.bindings.map Value.literal) ++ "]"

/-- A migration of the folder, and whether it was carried out. -/
structure MigrationStatus where
  migration : String
  ran : Bool
  deriving DecidableEq, Repr

namespace Migrator

open Migrating

variable {σ : Type} [Database σ]

/-- Another connection, for the history too. -/
def onConnection (migrator : Migrator σ) (name : Option String) : Migrator σ :=
  { migrator with history := { migrator.history with connection := name }, connection := name }


/-- Runs a migration on its connection, inside a transaction if it wants one. -/
def apply (migrator : Migrator σ) (migration : Migration σ) (heading : Heading) :
    Migrating σ Unit :=
  let action := migration.action heading
  managing (Connections.use (migration.connection.or migrator.connection)
    (if migration.transactional then Link.transaction action else action))

def pretend (migrator : Migrator σ) (identifier : String) (migration : Migration σ)
    (heading : Heading) : Migrating σ Unit := do
  let log ← managing (Connections.use (migration.connection.or migrator.connection)
    (Link.pretend (migration.action heading)))
  for logged in log do
    note (className identifier ++ ": " ++ logged.text)

def carryOut (migrator : Migrator σ) (batch : Int) (pretending : Bool) (identifier : String) :
    Migrating σ Unit := do
  let migration ← check (migrator.registry.resolve identifier)
  if pretending then migrator.pretend identifier migration .up
  else
    migrator.apply migration .up
    managing (migrator.history.log identifier batch)
    note ("Migrated: " ++ identifier)

def undo (migrator : Migrator σ) (pretending : Bool) (identifier : String) : Migrating σ Unit := do
  let migration ← check (migrator.registry.resolve identifier)
  if pretending then migrator.pretend identifier migration .down
  else
    migrator.apply migration .down
    managing (migrator.history.delete identifier)
    note ("Rolled back: " ++ identifier)

/-- Carries out the migrations of a folder that were not yet, as one batch. Results in their number;
pretending does none. -/
def run (migrator : Migrator σ) (folder : Path) (pretending : Bool) :
    Migrating σ Nat := do
  clearNotes
  let present ← discover folder
  let ran ← managing migrator.history.ran
  let pending := present.filter fun identifier => !ran.contains identifier
  if pending.isEmpty then
    note "Nothing to migrate."
    return 0
  let batch ← managing migrator.history.nextBatch
  pending.forM (migrator.carryOut batch pretending)
  return if pretending then 0 else pending.length

def undoAll (migrator : Migrator σ) (pretending : Bool) (entries : List HistoryEntry) :
    Migrating σ Nat := do
  if entries.isEmpty then
    note "Nothing to rollback."
    return 0
  entries.forM fun entry => migrator.undo pretending entry.migration
  return if pretending then 0 else entries.length

def rollback (migrator : Migrator σ) (pretending : Bool) : Migrating σ Nat := do
  clearNotes
  migrator.undoAll pretending (← managing migrator.history.lastEntries)

def reset (migrator : Migrator σ) (pretending : Bool) : Migrating σ Nat := do
  clearNotes
  migrator.undoAll pretending (← managing migrator.history.entries)

/-- Undoes all migrations and carries out those of a folder. The notes on both stay. -/
def refresh (migrator : Migrator σ) (folder : Path) (pretending : Bool) :
    Migrating σ Nat := do
  let _ ← migrator.reset pretending
  let before := (← get).notes
  let result ← outcome (migrator.run folder pretending)
  modify fun workspace => { workspace with notes := before ++ workspace.notes }
  check result

/-- The migrations of a folder, and which of them were carried out. -/
def status (migrator : Migrator σ) (folder : Path) :
    Migrating σ (List MigrationStatus) := do
  let ran ← managing migrator.history.ran
  let present ← discover folder
  return present.map fun migration => ⟨migration, ran.contains migration⟩

end Migrator

end SqlToolkit
