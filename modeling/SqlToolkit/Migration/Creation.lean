import SqlToolkit.Calendar
import SqlToolkit.Migration.Basic
/-!
New migration files: their names, and the source text that they start from.
-/

namespace SqlToolkit

/-- What a new migration is about. -/
inductive Stub where
  | blank
  | create (table : String)
  | update (table : String)
  deriving DecidableEq, Repr

/-- A table to create goes before a table to update. -/
def Stub.ofOptions (table create : Option String) : Stub :=
  match create, table with
  | some table, _ => .create table
  | none, some table => .update table
  | none, none => .blank

namespace Stub

def lines (lines : List String) : String :=
  "".intercalate (lines.map (· ++ "\n"))

/-- A call on the schema builder with a closure on one line each. -/
def schemaCall (method table : String) (body : List String) : String :=
  lines (["        connection", "            .schema()",
    "            ." ++ method ++ "(\"" ++ table ++ "\", |table| \x7b"] ++
    body.map ("                " ++ ·) ++ ["            \x7d)", "            .await"])

def bodies : Stub → String × String
  | blank => (lines ["        Ok(())"], lines ["        Ok(())"])
  | create table =>
      (schemaCall "create" table ["table.increments(\"id\");", "table.timestamps();"],
        lines ["        connection.schema().drop(\"" ++ table ++ "\").await"])
  | update table =>
      let body := schemaCall "table" table ["let _ = table;"]
      (body, body)

def method (name body : String) : String :=
  lines ["    async fn " ++ name ++ "(&self, connection: &Connection) -> quarry_core::Result<()> \x7b"] ++
    body ++ lines ["    \x7d"]

def render (stub : Stub) (name : String) : String :=
  lines ["use async_trait::async_trait;", "use quarry_core::Connection;",
    "use quarry_migrate::Migration;", "", "pub struct " ++ name ++ ";", "", "#[async_trait]",
    "impl Migration for " ++ name ++ " \x7b"] ++
    method "up" stub.bodies.1 ++ lines [""] ++ method "down" stub.bodies.2 ++ lines ["\x7d"]

end Stub

/-- A name starts with a small letter and goes on with small letters, digits and underscores. -/
def isMigrationName (name : String) : Bool :=
  let isSmall (c : Char) : Bool := 'a' ≤ c ∧ c ≤ 'z'
  match name.toList with
  | [] => false
  | first :: rest => isSmall first && rest.all fun c => isSmall c || c.isDigit || c == '_'

/-- Work on files. What was done before a failure stays. -/
abbrev Filing := EStateM MigrationError FileTree

namespace Filing

def makeFolder (folder : Path) : Filing Unit := fun tree =>
  match tree.makeFolder? folder with
  | some tree => .ok () tree
  | none => .error .fileSystem tree

def write (folder : Path) (name content : String) : Filing Unit := fun tree =>
  match tree.write? folder name content with
  | some tree => .ok () tree
  | none => .error .fileSystem tree

/-- Writes a new migration into a folder, which is made if it is not there. A migration of the same
class name may not be there yet. Results in the path of the file. -/
def createMigration (folder : Path) (name : String) (stub : Stub) (moment : Moment) :
    Filing Path := do
  if !isMigrationName name then throw (.invalidName name)
  let tree ← get
  if tree.isFolder folder then
    match (tree.migrations folder).find? fun other => className other = className name with
    | some other => throw (.alreadyExists (folder ++ [other ++ ".rs"]))
    | none => pure ()
  else makeFolder folder
  let file := moment.stamp ++ "_" ++ name ++ ".rs"
  write folder file (stub.render (className name))
  return folder ++ [file]

end Filing

end SqlToolkit
