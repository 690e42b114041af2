import SqlToolkit.Connection.Link
/-!
The connections of a configuration, by name. A connection is opened when it is first asked for and
kept from then on.
-/

namespace SqlToolkit

/-- A connection that was opened, by its place among all that were opened. -/
structure Opened where
  serial : Nat
  connection : Connection

structure Connections (σ : Type) where
  config : DatabaseConfig
  /-- The name that stands for no name. -/
  default : String
  opened : List (String × Opened) := []
  /-- How many connections were opened so far. -/
  count : Nat := 0
  database : σ

abbrev Managing (σ : Type) := EStateM Error (Connections σ)

namespace Connections

def make (config : DatabaseConfig) (database : σ) : Connections σ where
  config
  default := config.default
  database

def resolve (connections : Connections σ) (name : Option String) : String :=
  name.getD connections.default

def find? (connections : Connections σ) (name : String) : Option Opened :=
  connections.opened.lookup name

def keep (connections : Connections σ) (name : String) (opened : Opened) : Connections σ :=
  { connections with opened := connections.opened ++ [(name, opened)] }

def update (connections : Connections σ) (name : String) (connection : Connection) :
    Connections σ :=
  { connections with
    opened := connections.opened.map fun (other, opened) =>
      if other = name then (other, { opened with connection }) else (other, opened) }

def forget (connections : Connections σ) (name : String) : Connections σ :=
  { connections with opened := connections.opened.filter fun entry => entry.1 ≠ name }

variable {σ α : Type} [Database σ]

def openNamed (name : String) : Managing σ Opened := fun connections =>
  match connections.config.connection name with
  | .error error => .error error connections
  | .ok config =>
      match Connection.connect name config connections.database with
      | .error error database => .error error { connections with database }
      | .ok connection database =>
          let opened := ⟨connections.count, connection⟩
          let connections := { connections with database, count := connections.count + 1 }
          .ok opened (connections.keep name opened)

/-- The connection of a name: the one that is kept, or a new one. -/
def connection (name : Option String) : Managing σ Opened := do
  let connections ← get
  let name := connections.resolve name
  match connections.find? name with
  | some opened => return opened
  | none => openNamed name

def runOn (name : String) (connection : Connection) (action : Action σ α) : Managing σ α :=
  fun connections =>
    match action ⟨connection, connections.database⟩ with
    | .ok value link => .ok value { connections.update name link.connection with database := link.database }
    | .error error link =>
        .error error { connections.update name link.connection with database := link.database }

/-- Runs an action on the connection of a name, opening it if need be. -/
def use (name : Option String) (action : Action σ α) : Managing σ α := do
  let opened ← connection name
  runOn ((← get).resolve name) opened.connection action

/-- Opens the sessions of a connection anew, or the connection itself if it is not open. -/
def reconnect (name : Option String) : Managing σ Opened := do
  let connections ← get
  let name := connections.resolve name
  match connections.find? name with
  | some opened =>
      let connection ← runOn name opened.connection (do Link.reconnect; Link.current)
      return { opened with connection }
  | none => openNamed name

def disconnect (name : Option String) : Managing σ Unit := do
  let connections ← get
  let name := connections.resolve name
  match connections.find? name with
  | some opened => runOn name opened.connection Link.disconnect
  | none => return

def purge (name : Option String) : Managing σ Unit := do
  disconnect name
  modify fun connections => connections.forget (connections.resolve name)

def setDefault (name : String) : Managing σ Unit :=
  modify fun connections => { connections with default := name }

end Connections

end SqlToolkit
