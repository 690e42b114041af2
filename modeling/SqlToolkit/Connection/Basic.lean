import SqlToolkit.Connection.Database
import SqlToolkit.Query.Builder
import SqlToolkit.Schema.Definition
import SqlToolkit.Text.Quoted
import SqlToolkit.Text.Search
/-!
Connections: the sessions that are open for one configured database, the depth of its transactions,
and the log of its statements.
-/

namespace SqlToolkit

/-- A statement in the log. One that was only pretended took no time. -/
structure Logged where
  statement : Statement
  timed : Bool
  deriving DecidableEq, Repr

structure Connection where
  name : String
  config : ConnectionConfig
  vendor : Vendor
  marker : Marker
  write : Option Session
  read : Option Session
  /-- Whether lost sessions can be opened again. -/
  reconnects : Bool := false
  /-- How many transactions are open, one inside the other. -/
  level : Nat := 0
  pretending : Bool := false
  logging : Bool
  log : List Logged := []

namespace Connection

/-- A connection over open sessions. What the session for writing requires as a marker goes over
the configuration. -/
def make (name : String) (config : ConnectionConfig) (write : Session) (read : Option Session) :
    Except Error Connection := do
  let vendor ← config.vendor
  let marker ← match write.requiredMarker with
    | some marker => pure marker
    | none => config.marker
  return { name, config, vendor, marker, write := some write, read, logging := config.logQueries }

def dialect (connection : Connection) : Dialect where
  vendor := connection.vendor
  tablePrefix := connection.config.tablePrefix
  marker := connection.marker

/-- The dialect for tables. A version that cannot be read counts as unknown. -/
def schemaDialect (connection : Connection) : SchemaDialect where
  toDialect := connection.dialect
  database := connection.config.database
  engine := connection.config.engine
  charset := connection.config.charset
  collation := connection.config.collation
  serverVersion := connection.config.serverVersion.bind readVersion?
  searchSchema := connection.config.schema

def lostMessages (connection : Connection) : List String :=
  connection.config.lostMessages.getD
    ["server has gone away", "no connection to the server", "lost connection"]

/-- Whether a refusal tells, in any case, that the session is lost. -/
def isLost (connection : Connection) (reason : String) : Bool :=
  connection.lostMessages.any fun message =>
    Text.contains (Text.lower message).toList (Text.lower reason).toList

/-- Sessions are opened again outside transactions only. -/
def mayReconnect (connection : Connection) (reason : String) : Bool :=
  connection.reconnects && connection.level == 0 && connection.isLost reason

/-- The session for a request: replicas serve reads from anywhere, outside transactions. -/
def session? (connection : Connection) : Request → Option Session
  | .fetch false _ =>
      if connection.level = 0 then connection.read.or connection.write else connection.write
  | _ => connection.write

def withLogged (connection : Connection) (statement : Statement) (timed : Bool) : Connection :=
  { connection with log := connection.log ++ [⟨statement, timed⟩] }

def summary (connection : Connection) : String :=
  let driver := match connection.vendor with
    | .sqlite => "Sqlite"
    | .mysql => "MySql"
    | .postgres => "Postgres"
  "Connection \x7b name: " ++ Text.escaped connection.name ++ ", driver: " ++ driver ++
    ", transactions: " ++ toString connection.level ++ ", pretending: " ++
    toString connection.pretending ++ ", .. \x7d"

def query (connection : Connection) : Builder :=
  { dialect := connection.dialect }

end Connection

end SqlToolkit
