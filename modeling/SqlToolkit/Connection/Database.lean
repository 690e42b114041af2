import SqlToolkit.Connection.Config
import SqlToolkit.Program
/-!
Databases: where sessions are opened and requests are answered. A connection is written against this
interface alone; the state of the database is whatever an instance makes of it.
-/

namespace SqlToolkit

/-- An open session, by its place among the sessions of the database and by its label. -/
structure Session where
  serial : Nat
  label : String
  /-- The only marker that the session understands, if there is only one. -/
  requiredMarker : Option Marker
  deriving DecidableEq, Repr

inductive Role where
  | read
  | write
  deriving DecidableEq, Repr

def Role.name : Role → String
  | read => "read"
  | write => "write"

/-- A call on a session that is not a statement. -/
inductive Control where
  | begin
  | commit
  | rollback
  | close
  deriving DecidableEq, Repr

/-- Refusals of statements and controls are the words of the database. -/
class Database (σ : Type) where
  connect : ConnectionConfig → Role → EStateM Error σ Session
  answer : Session → (request : Request) → EStateM String σ request.Answer
  control : Session → Control → EStateM String σ Unit

inductive Call where
  | connect (config : ConnectionConfig) (role : Role)
  | answer (session : Session) (request : Request)
  | control (session : Session) (control : Control)

/-- The outcome of a stateful computation as a value. -/
def outcome {σ ε ε' α : Type} (action : EStateM ε σ α) : EStateM ε' σ (Except ε α) := fun state =>
  match action state with
  | .ok value after => .ok (.ok value) after
  | .error error after => .ok (.error error) after

end SqlToolkit
