import SqlToolkit.Connection.Basic
/-!
Connections at work: requests with one attempt to reconnect, transactions, pretending, and programs
performed on a connection.
-/

namespace SqlToolkit

/-- A connection together with the database that it talks to. -/
structure Link (σ : Type) where
  connection : Connection
  database : σ

abbrev Action (σ : Type) := EStateM Error (Link σ)

/-- Lets the database alone change. -/
def onDatabase (action : EStateM ε σ α) : EStateM ε (Link σ) α := fun link =>
  match action link.database with
  | .ok value database => .ok value { link with database }
  | .error error database => .error error { link with database }

variable {σ α : Type}

variable [Database σ]

/-- Opens the sessions of a configuration: one for writing, and one for reading if it has
replicas. -/
def openSessions (config : ConnectionConfig) : EStateM Error σ (Session × Option Session) := do
  let write ← Database.connect config .write
  if config.hasReplicas then return (write, some (← Database.connect config .read))
  return (write, none)

/-- A connection that opens its sessions, now and whenever they are lost. -/
def Connection.connect (name : String) (config : ConnectionConfig) : EStateM Error σ Connection := do
  let (write, read) ← openSessions config
  match Connection.make name config write read with
  | .ok connection => return { connection with reconnects := true }
  | .error error => throw error

namespace Link

def current : Action σ Connection :=
  return (← get).connection

def change (f : Connection → Connection) : Action σ Unit :=
  modify fun link => { link with connection := f link.connection }

/-- Opens the sessions anew. Those that are open stay unless all new ones open. -/
def reconnect : Action σ Unit := do
  let before ← current
  if !before.reconnects then throw (.noReconnector before.name)
  let (write, read) ← onDatabase (openSessions before.config)
  change fun connection => { connection with write := some write, read }

def missingSession : String :=
  "no connection to the server"

def tryRequest (request : Request) : EStateM String (Link σ) request.Answer := fun link =>
  match link.connection.session? request with
  | none => .error missingSession link
  | some session => onDatabase (Database.answer session request) link

def tryControl (control : Control) : EStateM String (Link σ) Unit := fun link =>
  match link.connection.write with
  | none => .error missingSession link
  | some session => onDatabase (Database.control session control) link

/-- Tries once, and once more with new sessions if the first refusal tells that they are lost. -/
def persist (wording : String → Error) (attempt : EStateM String (Link σ) α) : Action σ α := do
  match ← outcome attempt with
  | .ok value => return value
  | .error reason =>
      if !(← current).mayReconnect reason then throw (wording reason)
      reconnect
      attempt.adaptExcept wording

/-- Sends a request, or only logs it while pretending. -/
def run (request : Request) : Action σ request.Answer := do
  if (← current).pretending then
    change (·.withLogged request.statement false)
    return request.idleAnswer
  let answer ← persist (Error.query request.statement) (tryRequest request)
  if (← current).logging then change (·.withLogged request.statement true)
  return answer

def perform : Program α → Action σ α
  | .result value => pure value
  | .failure error => throw error
  | .attached next => perform next
  | .send request next => do perform (next (← run request))

/-! Transactions -/

/-- Opens a transaction; one inside another is only counted. -/
def begin : Action σ Unit := do
  let before ← current
  if before.level = 0 ∧ !before.pretending then persist Error.driver (tryControl .begin)
  change fun connection => { connection with level := connection.level + 1 }

/-- Closes the innermost transaction. A refused commit leaves the transaction open. -/
def commit : Action σ Unit := do
  let before ← current
  if before.level = 0 then throw (.invalidArgument .noTransaction)
  if before.level = 1 ∧ !before.pretending then (tryControl .commit).adaptExcept Error.driver
  change fun connection => { connection with level := connection.level - 1 }

/-- Gives the innermost transaction up, if there is one, even if the database refuses. -/
def rollback : Action σ Unit := do
  let before ← current
  change fun connection => { connection with level := connection.level - 1 }
  if before.level = 1 ∧ !before.pretending then (tryControl .rollback).adaptExcept Error.driver

/-- Runs an action inside a transaction, which is given up if the action or the commit fails. -/
def transaction (action : Action σ α) : Action σ α := do
  begin
  match ← outcome (do let value ← action; commit; return value) with
  | .ok value => return value
  | .error error =>
      let _ ← outcome (ε := Error) rollback
      throw error

/-! Pretending -/

/-- Runs an action without sending its requests; results in what it would have sent. The log and
its switch are as before afterwards. -/
def pretend (action : Action σ α) : Action σ (List Logged) := do
  let before ← current
  change fun connection =>
    { connection with pretending := true, logging := true, log := [] }
  let result ← outcome action
  let captured := (← current).log
  change fun connection =>
    { connection with pretending := before.pretending, logging := before.logging, log := before.log }
  match result with
  | .ok _ => return captured
  | .error error => throw error

/-! Sessions -/

/-- Puts another session in the place of the one for writing, outside transactions only. -/
def setWrite (session : Session) : Action σ Unit := do
  let level := (← current).level
  if 1 ≤ level then throw (.transactionActive level)
  change fun connection => { connection with write := some session }

def setRead (session : Option Session) : Action σ Unit :=
  change fun connection => { connection with read := session }

/-- Closes what is open, whatever the database says to it. -/
def disconnect : Action σ Unit := do
  let before ← current
  change fun connection => { connection with write := none, read := none }
  for session in before.write.toList ++ before.read.toList do
    let _ ← outcome (ε := String) (onDatabase (Database.control session .close))

end Link

end SqlToolkit
