import SqlToolkit.CommandLine.Options
import SqlToolkit.Document.Toml
import SqlToolkit.Migration.Migrator
/-!
Carrying out what was asked for on the command line. Each command results in the lines to print.
-/

namespace SqlToolkit

namespace DatabaseConfig

/-- SQLite in a file of its own, for want of a configuration. -/
def fallback : DatabaseConfig :=
  .single "sqlite" { driver := "sqlite", database := "database.sqlite" }

/-- The configuration of a file in TOML, if there is one. A list in it may go on behind the fields of
its record. -/
def ofFile : Option String → Except MigrationError DatabaseConfig
  | none => .ok fallback
  | some text =>
      match (Toml.read? text).bind (ofDocument? .ignored) with
      | some config => .ok config
      | none => .error .configuration

end DatabaseConfig

def MigrationStatus.line (status : MigrationStatus) : String :=
  (if status.ran then "[Y] " else "[N] ") ++ status.migration

namespace Migrator

open Migrating

variable {σ : Type} [Database σ]

def hasHistory (migrator : Migrator σ) : Migrating σ Bool :=
  managing migrator.history.exists?

/-- Creates the history table if it is not there; results in whether it was. -/
def install (migrator : Migrator σ) : Migrating σ Bool := do
  if ← migrator.hasHistory then return true
  managing migrator.history.create
  return false

end Migrator

namespace CommandLine

open Migrating

variable {σ : Type} [Database σ]

def Command.lines (command : Command) (migrator : Migrator σ) (folder : Path) (now : Moment) :
    Migrating σ (List String) := do
  match command with
  | .install =>
      if ← migrator.install then return ["Migration table already exists."]
      return ["Migration table created successfully."]
  | .run pretend _ =>
      let _ ← migrator.install
      let _ ← migrator.run folder pretend
      return (← get).notes
  | .rollback pretend _ =>
      let _ ← migrator.rollback pretend
      return (← get).notes
  | .reset pretend _ =>
      let _ ← migrator.reset pretend
      return (← get).notes
  | .refresh _ =>
      let _ ← migrator.install
      let _ ← migrator.refresh folder false
      return (← get).notes
  | .status =>
      if !(← migrator.hasHistory) then return ["No migrations found."]
      return (← migrator.status folder).map MigrationStatus.line
  | .make name table create =>
      let file ← filing (Filing.createMigration folder name (.ofOptions table create) now)
      return ["Created migration: " ++ file.text]

def Options.lines (options : Options) (registry : MigrationRegistry σ) (folder : Path)
    (now : Moment) : Migrating σ (List String) :=
  if options.isAllowed then
    options.command.lines (({ registry } : Migrator σ).onConnection options.database) folder now
  else return ["Application in production: use --force to run this command."]

end CommandLine

end SqlToolkit
