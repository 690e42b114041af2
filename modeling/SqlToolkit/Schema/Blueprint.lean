import SqlToolkit.Schema.Column
import SqlToolkit.Text.Case
/-!
Blueprints: what is to happen to one table. A blueprint collects columns and commands; preparing it
adds the commands that its columns imply.
-/

namespace SqlToolkit

structure IndexSpec where
  name : String
  columns : List String
  deriving DecidableEq, Repr

structure ForeignKey where
  name : String
  columns : List String
  references : List String := []
  table : String := ""
  onDelete : Option ForeignAction := none
  onUpdate : Option ForeignAction := none
  deriving DecidableEq, Repr

inductive Command where
  | create
  | add
  | change
  | drop
  | dropIfExists
  | rename (name : String)
  | dropColumns (columns : List String)
  | renameColumn (column name : String)
  | primary (index : IndexSpec)
  | unique (index : IndexSpec)
  | index (index : IndexSpec)
  | foreign (key : ForeignKey)
  | dropPrimary (name : String)
  | dropUnique (name : String)
  | dropIndex (name : String)
  | dropForeign (name : String)
  deriving DecidableEq, Repr

def Command.name : Command → String
  | create => "create"
  | add => "add"
  | change => "change"
  | drop => "drop"
  | dropIfExists => "drop_if_exists"
  | rename _ => "rename"
  | dropColumns _ => "drop_column"
  | renameColumn _ _ => "rename_column"
  | primary _ => "primary"
  | unique _ => "unique"
  | index _ => "index"
  | foreign _ => "foreign"
  | dropPrimary _ => "drop_primary"
  | dropUnique _ => "drop_unique"
  | dropIndex _ => "drop_index"
  | dropForeign _ => "drop_foreign"

structure Blueprint where
  table : String
  tablePrefix : String := ""
  columns : List Column := []
  commands : List Command := []
  engine : Option String := none
  charset : Option String := none
  collation : Option String := none
  deriving DecidableEq, Repr

namespace Blueprint

def addColumns (blueprint : Blueprint) (columns : List Column) : Blueprint :=
  { blueprint with columns := blueprint.columns ++ columns }

def addCommand (blueprint : Blueprint) (command : Command) : Blueprint :=
  { blueprint with commands := blueprint.commands ++ [command] }

def added (blueprint : Blueprint) : List Column :=
  blueprint.columns.filter fun column => !column.changes

def changed (blueprint : Blueprint) : List Column :=
  blueprint.columns.filter (·.changes)

def creates (blueprint : Blueprint) : Bool :=
  blueprint.commands.contains .create

def hasCommand (blueprint : Blueprint) (name : String) : Bool :=
  blueprint.commands.any (·.name == name)

/-- The usual name of an index: table, columns and kind in small letters, with no other separator
than the underscore. -/
def indexName (blueprint : Blueprint) (kind : String) (columns : List String) : String :=
  let name := blueprint.tablePrefix ++ blueprint.table ++ "_" ++ "_".intercalate columns ++ "_" ++ kind
  String.ofList ((Text.lower name).toList.map fun c => if c = '-' ∨ c = '.' then '_' else c)

/-- An index under the given name, or else under the usual one. -/
def indexSpec (blueprint : Blueprint) (kind : String) (columns : List String)
    (name : Option String) : IndexSpec where
  name := name.getD (blueprint.indexName kind columns)
  columns

def primary (blueprint : Blueprint) (columns : List String) (name : Option String) : Blueprint :=
  blueprint.addCommand (.primary (blueprint.indexSpec "primary" columns name))

def unique (blueprint : Blueprint) (columns : List String) (name : Option String) : Blueprint :=
  blueprint.addCommand (.unique (blueprint.indexSpec "unique" columns name))

def index (blueprint : Blueprint) (columns : List String) (name : Option String) : Blueprint :=
  blueprint.addCommand (.index (blueprint.indexSpec "index" columns name))

def foreignKey (blueprint : Blueprint) (columns : List String) (name : Option String) :
    ForeignKey where
  name := name.getD (blueprint.indexName "foreign" columns)
  columns

def dropPrimary (blueprint : Blueprint) (name : Option String) : Blueprint :=
  blueprint.addCommand
    (.dropPrimary (name.getD (blueprint.tablePrefix ++ blueprint.table ++ "_pkey")))

/-- The times at which a row was inserted and last updated, alike but for their names. -/
def timestamps (blueprint : Blueprint) (nullable useCurrent : Bool) : Blueprint :=
  blueprint.addColumns (["created_at", "updated_at"].map fun name =>
    { type := .timestamp, name, nullable, useCurrent })

def dropTimestamps (blueprint : Blueprint) : Blueprint :=
  blueprint.addCommand (.dropColumns ["created_at", "updated_at"])

def dropDeletion (blueprint : Blueprint) : Blueprint :=
  blueprint.addCommand (.dropColumns ["deleted_at"])

/-- A reference to a row of any table: its key, the name of its table, and an index on both. -/
def morphs (blueprint : Blueprint) (name : String) : Blueprint :=
  (blueprint.addColumns [{ type := .integer, name := name ++ "_id", unsigned := true },
    Column.string (name ++ "_type")]).index [name ++ "_id", name ++ "_type"] none

/-- The commands that go in front: adding and changing columns of a table that is there. -/
def leadingCommands (blueprint : Blueprint) : List Command :=
  if blueprint.creates then []
  else
    (if !blueprint.added.isEmpty && !blueprint.hasCommand "add" then [.add] else []) ++
      (if !blueprint.changed.isEmpty && !blueprint.hasCommand "change" then [.change] else [])

def columnIndexes (blueprint : Blueprint) (column : Column) : List Command :=
  (if column.primary then [.primary (blueprint.indexSpec "primary" [column.name] none)] else []) ++
    (if column.unique then [.unique (blueprint.indexSpec "unique" [column.name] none)] else []) ++
      (if column.index then [.index (blueprint.indexSpec "index" [column.name] none)] else [])

/-- Appends the commands that are not there yet. -/
def appendMissing (commands : List Command) : List Command → List Command
  | [] => commands
  | command :: rest =>
      appendMissing (if commands.contains command then commands else commands ++ [command]) rest

/-- Adds the commands that the columns imply; the columns then imply no index any more. -/
def prepared (blueprint : Blueprint) : Blueprint :=
  { blueprint with
    commands := appendMissing (blueprint.leadingCommands ++ blueprint.commands)
      (blueprint.columns.flatMap blueprint.columnIndexes)
    columns := blueprint.columns.map fun column =>
      { column with primary := false, unique := false, index := false } }

end Blueprint

end SqlToolkit
