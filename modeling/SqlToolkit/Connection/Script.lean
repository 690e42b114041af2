import SqlToolkit.Connection.Database
/-!
Scripted databases: a database that answers from prepared queues, refuses when it is told to, and
keeps a record of every call.
-/

namespace SqlToolkit

/-- A call that a scripted database received, and how it refused it. -/
structure Event where
  call : Call
  refusal : Option String

/-- Each call takes the head of a queue. In a queue of refusals an absent one lets the call
succeed, and so does an empty queue. -/
structure Script where
  rows : List (List Row) := []
  receipts : List Receipt := []
  /-- The marker that new sessions require. -/
  marker : Option Marker := none
  statements : List (Option String) := []
  begins : List (Option String) := []
  commits : List (Option String) := []
  rollbacks : List (Option String) := []
  closes : List (Option String) := []
  connects : List (Option String) := []
  events : List Event := []
  sessions : Nat := 0

namespace Script

def extend (script more : Script) : Script :=
  { script with
    rows := script.rows ++ more.rows
    receipts := script.receipts ++ more.receipts
    marker := more.marker.or script.marker
    statements := script.statements ++ more.statements
    begins := script.begins ++ more.begins
    commits := script.commits ++ more.commits
    rollbacks := script.rollbacks ++ more.rollbacks
    closes := script.closes ++ more.closes
    connects := script.connects ++ more.connects }

/-- A session under a label, opened without a call. -/
def openSession (label : String) : EStateM ε Script Session := fun script =>
  .ok ⟨script.sessions, label, script.marker⟩ { script with sessions := script.sessions + 1 }

def record (call : Call) (refusal : Option String) (script : Script) : Script :=
  { script with events := script.events ++ [⟨call, refusal⟩] }

/-- The words after a mark in front of a text. -/
def marked? (mark : String) (text : String) : Option String :=
  if mark.toList.isPrefixOf text.toList then
    some (String.ofList (text.toList.drop mark.length))
  else none

/-- The words of a refusal; a mark that tells of a deeper cause is not one of them. -/
def words (refusal : String) : String :=
  (marked? "src:" refusal).getD refusal

/-- Why a session does not open: a driver that is not there, or a refusal. -/
def connectError (refusal : String) : Error :=
  match marked? "missing:" refusal with
  | some name => .missingPackage name
  | none => .driver (words refusal)

def connect (config : ConnectionConfig) (role : Role) : EStateM Error Script Session := fun script =>
  let refusal := script.connects.head?.join
  let script := { script with connects := script.connects.tail }.record (.connect config role) refusal
  match refusal with
  | some refusal => .error (connectError refusal) script
  | none => openSession role.name script

/-- The answer to a request that is not refused, from the queue for its kind. -/
def supply (script : Script) : (request : Request) → request.Answer × Script
  | .fetch _ _ => (script.rows.headD [], { script with rows := script.rows.tail })
  | .execute _ => (script.receipts.headD ⟨1, some 7⟩, { script with receipts := script.receipts.tail })
  | .unprepared _ => ((), script)

def answer (session : Session) (request : Request) : EStateM String Script request.Answer :=
  fun script =>
    let refusal := script.statements.head?.join
    let script :=
      { script with statements := script.statements.tail }.record (.answer session request) refusal
    match refusal with
    | some refusal => .error (words refusal) script
    | none => let (answer, script) := script.supply request; .ok answer script

def refusals (script : Script) : Control → List (Option String)
  | .begin => script.begins
  | .commit => script.commits
  | .rollback => script.rollbacks
  | .close => script.closes

def advance (script : Script) : Control → Script
  | .begin => { script with begins := script.begins.tail }
  | .commit => { script with commits := script.commits.tail }
  | .rollback => { script with rollbacks := script.rollbacks.tail }
  | .close => { script with closes := script.closes.tail }

def control (session : Session) (control : Control) : EStateM String Script Unit := fun script =>
  let refusal := (script.refusals control).head?.join
  let script := (script.advance control).record (.control session control) refusal
  match refusal with
  | some refusal => .error (words refusal) script
  | none => .ok () script

instance : Database Script where
  connect := connect
  answer := answer
  control := control

end Script

end SqlToolkit
