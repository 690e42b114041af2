import SqlToolkit.Document.Basic
import SqlToolkit.Error
/-!
Configuration of connections: which database to open, where it is, and how statements for it are
written. A configuration is read from a document, in which the fields of a record stand by name or,
in a list, by place.
-/

namespace SqlToolkit

/-- A vendor by one of its names, in any case. -/
def Vendor.ofName (name : String) : Except Error Vendor :=
  match Text.asciiLower name with
  | "sqlite" => .ok .sqlite
  | "mysql" => .ok .mysql
  | "postgres" | "pgsql" | "postgresql" => .ok .postgres
  | other => .error (.unsupportedDriver other)

/-- What one server of a connection has of its own. -/
structure Endpoint where
  host : Option String
  port : Option Nat
  database : Option String
  user : Option String
  password : Option String
  deriving DecidableEq, Repr

inductive Replicas where
  | one (endpoint : Endpoint)
  | many (endpoints : List Endpoint)
  deriving DecidableEq, Repr

/-- The replica that is used; a list is taken to have one at most. -/
def Replicas.chosen? : Replicas → Option Endpoint
  | one endpoint => some endpoint
  | many endpoints => endpoints.head?

structure ConnectionConfig where
  driver : String
  name : Option String := none
  database : String := ""
  host : Option String := none
  port : Option Nat := none
  user : Option String := none
  password : Option String := none
  tablePrefix : String := ""
  logQueries : Bool := false
  useQuestionMarks : Option Bool := none
  charset : Option String := none
  collation : Option String := none
  engine : Option String := none
  foreignKeys : Bool := true
  schema : Option String := none
  serverVersion : Option String := none
  lostMessages : Option (List String) := none
  read : Option Replicas := none
  write : Option Endpoint := none
  deriving DecidableEq, Repr

namespace ConnectionConfig

def vendor (config : ConnectionConfig) : Except Error Vendor :=
  Vendor.ofName config.driver

/-- SQLite takes question marks only; the others take what the configuration says. -/
def marker (config : ConnectionConfig) : Except Error Marker := do
  let vendor ← config.vendor
  let questionMarks := match vendor with
    | .sqlite => true
    | .mysql => config.useQuestionMarks.getD true
    | .postgres => config.useQuestionMarks.getD false
  return if questionMarks then .question else .percent

def hasReplicas (config : ConnectionConfig) : Bool :=
  config.read.isSome

/-- The configuration of a single server: what the endpoint has goes over what is common. -/
def merged (config : ConnectionConfig) (endpoint : Option Endpoint) : ConnectionConfig :=
  let config := { config with read := none, write := none }
  match endpoint with
  | none => config
  | some endpoint =>
      { config with
        host := endpoint.host.or config.host
        port := endpoint.port.or config.port
        database := endpoint.database.getD config.database
        user := endpoint.user.or config.user
        password := endpoint.password.or config.password }

def forWriting (config : ConnectionConfig) : ConnectionConfig :=
  config.merged config.write

def forReading? (config : ConnectionConfig) : Option ConnectionConfig :=
  config.read.map fun replicas => config.merged replicas.chosen?

end ConnectionConfig

/-- Connections by name, in the order of their names. -/
structure DatabaseConfig where
  default : String
  connections : List (String × ConnectionConfig)

namespace DatabaseConfig

def single (name : String) (config : ConnectionConfig) : DatabaseConfig :=
  ⟨name, [(name, config)]⟩

def names (config : DatabaseConfig) : List String :=
  config.connections.map (·.1)

/-- The configuration of a name; a connection without a name of its own takes that name. -/
def connection (config : DatabaseConfig) (name : String) : Except Error ConnectionConfig :=
  match config.connections.lookup name with
  | some connection => .ok { connection with name := connection.name.or (some name) }
  | none => .error (.notConfigured name)

end DatabaseConfig

/-! Reading a configuration -/

namespace Document

/-- What becomes of the items of a list beyond the fields of its record. -/
inductive Surplus where
  | refused
  | ignored
  deriving DecidableEq, Repr

/-- Whether a document can stand for a record with the fields `names`. -/
def isRecord (surplus : Surplus) (names : List String) : Document → Bool
  | table _ => true
  | list items => surplus = .ignored || items.length ≤ names.length
  | _ => false

/-- Whether no field can be missing from the end of a document that stands for a record. -/
def isWhole (names : List String) : Document → Bool
  | list items => names.length ≤ items.length
  | _ => true

/-- A field of a record: by its name, or by its place among `names`. -/
def field? (names : List String) (name : String) : Document → Option Document
  | table entries => entries.lookup name
  | list items => items[names.idxOf name]?
  | _ => none

/-- A field that may be missing or null. -/
def optional? (read : Document → Option α) : Option Document → Option (Option α)
  | none => some none
  | some null => some none
  | some document => (read document).map some

/-- A field with a value of its own where it is missing. -/
def default? (value : α) (read : Document → Option α) : Option Document → Option α
  | none => some value
  | some document => read document

def port? : Document → Option Nat :=
  natural? 65535

end Document

open Document

def Endpoint.fields : List String :=
  ["host", "port", "database", "user", "password"]

/-- A list of fields is an endpoint only if no field is missing from it. -/
def Endpoint.ofDocument? (surplus : Surplus) (document : Document) : Option Endpoint := do
  if !document.isRecord surplus fields || !document.isWhole fields then failure
  let field name := document.field? fields name
  return {
    host := ← optional? text? (field "host")
    port := ← optional? port? (field "port")
    database := ← optional? text? (field "database")
    user := ← optional? text? (field "user")
    password := ← optional? text? (field "password") }

/-- One endpoint, or else a list of them. A list is tried as both, so no item of it may be left
over. -/
def Replicas.ofDocument? (document : Document) : Option Replicas :=
  match Endpoint.ofDocument? .refused document, document with
  | some endpoint, _ => some (.one endpoint)
  | none, .list items => (items.mapM (Endpoint.ofDocument? .refused)).map .many
  | none, _ => none

def ConnectionConfig.fields : List String :=
  ["driver", "name", "database", "host", "port", "user", "password", "prefix", "log_queries",
    "use_qmark", "charset", "collation", "engine", "foreign_keys", "schema", "server_version",
    "lost_connection_messages", "read", "write"]

def ConnectionConfig.ofDocument? (surplus : Surplus) (document : Document) :
    Option ConnectionConfig := do
  if !document.isRecord surplus fields then failure
  let field name := document.field? fields name
  return {
    driver := ← (field "driver").bind text?
    name := ← optional? text? (field "name")
    database := ← default? "" text? (field "database")
    host := ← optional? text? (field "host")
    port := ← optional? port? (field "port")
    user := ← optional? text? (field "user")
    password := ← optional? text? (field "password")
    tablePrefix := ← default? "" text? (field "prefix")
    logQueries := ← default? false boolean? (field "log_queries")
    useQuestionMarks := ← optional? boolean? (field "use_qmark")
    charset := ← optional? text? (field "charset")
    collation := ← optional? text? (field "collation")
    engine := ← optional? text? (field "engine")
    foreignKeys := ← default? true boolean? (field "foreign_keys")
    schema := ← optional? text? (field "schema")
    serverVersion := ← optional? text? (field "server_version")
    lostMessages := ← optional? texts? (field "lost_connection_messages")
    read := ← optional? Replicas.ofDocument? (field "read")
    write := ← optional? (Endpoint.ofDocument? surplus) (field "write") }

def DatabaseConfig.fields : List String :=
  ["default", "connections"]

def DatabaseConfig.ofDocument? (surplus : Surplus) (document : Document) :
    Option DatabaseConfig := do
  if !document.isRecord surplus fields then failure
  let default ← (document.field? fields "default").bind text?
  match document.field? fields "connections" with
  | some (.table entries) =>
      return ⟨default, ← entries.mapM fun (name, entry) => do
        return (name, ← ConnectionConfig.ofDocument? surplus entry)⟩
  | _ => failure

end SqlToolkit
