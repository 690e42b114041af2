import SqlToolkit.Error
import SqlToolkit.Row
/-!
Programs: what is to be asked of a database, one request after the other, where a later request may
depend on the answers to the earlier ones. A program knows nothing of connections; a connection
performs it.
-/

namespace SqlToolkit

/-- What the database tells of a statement that it ran. -/
structure Receipt where
  affected : Nat
  lastKey : Option Int
  deriving DecidableEq, Repr

inductive Request where
  /-- Reads rows, from the primary server or from any. -/
  | fetch (fromPrimary : Bool) (statement : Statement)
  | execute (statement : Statement)
  /-- Sends a text of any number of statements as it is. -/
  | unprepared (sql : String)
  deriving DecidableEq, Repr

namespace Request

abbrev Answer : Request → Type
  | fetch _ _ => List Row
  | execute _ => Receipt
  | unprepared _ => Unit

/-- The answer of a database that does nothing. -/
def idleAnswer : (request : Request) → request.Answer
  | fetch _ _ => ([] : List Row)
  | execute _ => (⟨0, none⟩ : Receipt)
  | unprepared _ => ()

/-- The request as a statement; a text sent as it is has no bindings. -/
def statement : Request → Statement
  | fetch _ statement => statement
  | execute statement => statement
  | unprepared sql => ⟨sql, []⟩

end Request

inductive Program (α : Type) where
  | result (value : α)
  | failure (error : Error)
  /-- Goes on only where there is a connection. -/
  | attached (next : Program α)
  | send (request : Request) (next : request.Answer → Program α)

namespace Program

variable {α β : Type}

def bind : Program α → (α → Program β) → Program β
  | result value, f => f value
  | failure error, _ => failure error
  | attached next, f => attached (next.bind f)
  | send request next, f => send request fun answer => (next answer).bind f

instance : Monad Program where
  pure := result
  bind := bind

/-- Goes on with the value of a check that found no fault. -/
def check : Except Fault α → Program α
  | .ok value => result value
  | .error fault => failure (.invalidArgument fault)

/-- Asks for nothing, but fails without a connection. -/
def connected : Program Unit :=
  attached (result ())

def ask (request : Request) : Program request.Answer :=
  send request result

def fetch (statement : Statement) : Program (List Row) :=
  ask (.fetch false statement)

def fetchFromPrimary (statement : Statement) : Program (List Row) :=
  ask (.fetch true statement)

def execute (statement : Statement) : Program Receipt :=
  ask (.execute statement)

/-- The outcome without a connection: the first request fails. -/
def detached : Program α → Except Error α
  | result value => .ok value
  | failure error => .error error
  | attached _ => .error (.invalidArgument .detached)
  | send _ _ => .error (.invalidArgument .detached)

end Program

end SqlToolkit
