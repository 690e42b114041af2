import SqlToolkit.Connection.Config
/-!
Configurations written as documents: a connection by the names of its fields, an endpoint as the
list of its fields, and a list of endpoints under a name of its own, which tells it from an
endpoint.
-/

namespace SqlToolkit

open Document

def Endpoint.toDocument (endpoint : Endpoint) : Document :=
  .list [ofText? endpoint.host, ofOption (fun port : Nat => port) endpoint.port,
    ofText? endpoint.database, ofText? endpoint.user, ofText? endpoint.password]

def Replicas.toDocument : Replicas → Document
  | .one endpoint => endpoint.toDocument
  | .many endpoints => .table [("many", ofList Endpoint.toDocument endpoints)]

def ConnectionConfig.toDocument (config : ConnectionConfig) : Document :=
  .table [
    ("charset", ofText? config.charset),
    ("collation", ofText? config.collation),
    ("database", config.database),
    ("driver", config.driver),
    ("engine", ofText? config.engine),
    ("foreign_keys", config.foreignKeys),
    ("host", ofText? config.host),
    ("log_queries", config.logQueries),
    ("lost_connection_messages", ofOption ofTexts config.lostMessages),
    ("name", ofText? config.name),
    ("password", ofText? config.password),
    ("port", ofOption (fun port : Nat => port) config.port),
    ("prefix", config.tablePrefix),
    ("read", ofOption Replicas.toDocument config.read),
    ("schema", ofText? config.schema),
    ("server_version", ofText? config.serverVersion),
    ("use_qmark", ofOption boolean config.useQuestionMarks),
    ("user", ofText? config.user),
    ("write", ofOption Endpoint.toDocument config.write)]

end SqlToolkit
