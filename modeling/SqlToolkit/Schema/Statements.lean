import SqlToolkit.Fault
import SqlToolkit.Schema.Inspection
/-!
The statements of a blueprint, command by command. MySQL and PostgreSQL alter tables in place.
SQLite changes or drops columns by a rebuild: it copies the rows away, makes the table anew and
copies the rows back.
-/

namespace SqlToolkit

namespace SchemaDialect

def tableOf (dialect : SchemaDialect) (blueprint : Blueprint) : String :=
  dialect.table blueprint.table

def alterTable (dialect : SchemaDialect) (blueprint : Blueprint) (change : String) : String :=
  "ALTER TABLE " ++ dialect.tableOf blueprint ++ " " ++ change

def foreignClause (dialect : SchemaDialect) (key : ForeignKey) : String :=
  "FOREIGN KEY (" ++ dialect.columns key.columns ++ ") REFERENCES " ++ dialect.table key.table ++
    " (" ++ dialect.columns key.references ++ ")" ++
    (key.onDelete.map (" ON DELETE " ++ ·.text)).getD "" ++
    (key.onUpdate.map (" ON UPDATE " ++ ·.text)).getD ""

/-! Creating a table and adding columns -/

/-- The keys that SQLite can only declare together with the table. -/
def inlineKeys (dialect : SchemaDialect) (blueprint : Blueprint) : List String :=
  blueprint.commands.filterMap fun command =>
    match command with
    | .primary index => some ("PRIMARY KEY (" ++ dialect.columns index.columns ++ ")")
    | .foreign key => some (dialect.foreignClause key)
    | _ => none

/-- The options of a MySQL table; what the blueprint says goes over the connection. -/
def tableOptions (dialect : SchemaDialect) (blueprint : Blueprint) : String :=
  ((blueprint.charset.or dialect.charset).map (" DEFAULT CHARACTER SET " ++ ·)).getD "" ++
    ((blueprint.collation.or dialect.collation).map (" COLLATE " ++ ·)).getD "" ++
    ((blueprint.engine.or dialect.engine).map (" ENGINE = " ++ ·)).getD ""

def create (dialect : SchemaDialect) (blueprint : Blueprint) : String :=
  let definitions := dialect.columnDefinitions blueprint.added
  let parts := match dialect.vendor with
    | .sqlite => definitions ++ dialect.inlineKeys blueprint
    | _ => definitions
  let options := match dialect.vendor with
    | .mysql => dialect.tableOptions blueprint
    | _ => ""
  "CREATE TABLE " ++ dialect.tableOf blueprint ++ " (" ++ ", ".intercalate parts ++ ")" ++ options

/-- SQLite adds one column per statement. -/
def add (dialect : SchemaDialect) (blueprint : Blueprint) : List String :=
  let definitions := dialect.columnDefinitions blueprint.added
  match dialect.vendor with
  | .sqlite =>
      definitions.map fun definition => dialect.alterTable blueprint ("ADD COLUMN " ++ definition)
  | .mysql => [dialect.alterTable blueprint (", ".intercalate (definitions.map ("ADD " ++ ·)))]
  | .postgres =>
      [dialect.alterTable blueprint (", ".intercalate (definitions.map ("ADD COLUMN " ++ ·)))]

/-! Rebuilding a table -/

def existingDefinition (dialect : SchemaDialect) (info : ColumnInfo) : String :=
  dialect.column info.name ++ (if info.type = "" then "" else " " ++ info.type) ++
    (if info.notNull then " NOT NULL" else "") ++
    (info.default.map (" DEFAULT " ++ ·)).getD ""

def primaryKeyClause (dialect : SchemaDialect) (columns : List ColumnInfo) : List String :=
  match columns.filter (·.primaryKey) with
  | [] => []
  | keys => ["PRIMARY KEY (" ++ dialect.columns (keys.map (·.name)) ++ ")"]

/-- Foreign keys are switched off around statements during which they may be broken. -/
def withoutForeignKeys (context : TableContext) (statements : List String) : List String :=
  if context.foreignKeys then
    ["PRAGMA foreign_keys = OFF"] ++ statements ++ ["PRAGMA foreign_keys = ON"]
  else statements

/-- Makes a table anew from declarations and keeps the rows of the columns `kept`. -/
def rebuild (dialect : SchemaDialect) (blueprint : Blueprint) (definitions kept : List String)
    (context : TableContext) : List String :=
  let table := dialect.tableOf blueprint
  let temporary := dialect.quoted ("__temp__" ++ dialect.tablePrefix ++ blueprint.table)
  let columns := dialect.columns kept
  withoutForeignKeys context [
    "CREATE TEMPORARY TABLE " ++ temporary ++ " AS SELECT " ++ columns ++ " FROM " ++ table,
    "DROP TABLE " ++ table,
    "CREATE TABLE " ++ table ++ " (" ++ ", ".intercalate definitions ++ ")",
    "INSERT INTO " ++ table ++ " (" ++ columns ++ ") SELECT " ++ columns ++ " FROM " ++ temporary,
    "DROP TABLE " ++ temporary]

/-- The declaration of a column after a change: the new one of its name, or the old one. -/
def changedDefinition (dialect : SchemaDialect) (changed : List Column) (info : ColumnInfo) :
    String :=
  match changed.find? (·.name = info.name) with
  | some column => dialect.columnDefinition column
  | none => dialect.existingDefinition info

/-- A column that counts up declares the primary key itself. -/
def rebuildChanged (dialect : SchemaDialect) (blueprint : Blueprint) (context : TableContext) :
    Except Fault (List String) :=
  if context.columns = [] then .error (.changeWithoutColumns blueprint.table)
  else
    let changed := blueprint.changed
    let counts := changed.any fun column => column.autoIncrement && column.isInteger
    let definitions := context.columns.map (dialect.changedDefinition changed) ++
      (if counts then [] else dialect.primaryKeyClause context.columns)
    .ok (dialect.rebuild blueprint definitions (context.columns.map (·.name)) context)

def rebuildWithout (dialect : SchemaDialect) (blueprint : Blueprint) (dropped : List String)
    (context : TableContext) : List String :=
  let remaining := context.columns.filter fun info => !dropped.contains info.name
  dialect.rebuild blueprint
    (remaining.map dialect.existingDefinition ++ dialect.primaryKeyClause remaining)
    (remaining.map (·.name)) context

/-! Changing columns -/

/-- The type of the values of a column that is there already. -/
def storedType (dialect : SchemaDialect) (column : Column) : String :=
  match column.type with
  | .enumeration => "VARCHAR(255)"
  | .timestamp => "TIMESTAMP(6) WITHOUT TIME ZONE"
  | _ => dialect.postgresType { column with autoIncrement := false }

/-- PostgreSQL changes type, nullability, default and enumeration of a column one by one. -/
def alterColumn (dialect : SchemaDialect) (blueprint : Blueprint) (column : Column) : List String :=
  let alter := "ALTER COLUMN " ++ dialect.column column.name ++ " "
  let default := match column.default with
    | some default => "SET DEFAULT " ++ default.literal
    | none =>
        if column.useCurrent ∧ column.type = .timestamp then "SET DEFAULT CURRENT_TIMESTAMP(6)"
        else "DROP DEFAULT"
  let constraint := blueprint.indexName "check" [column.name]
  [alter ++ "TYPE " ++ dialect.storedType column,
    alter ++ (if column.nullable then "DROP NOT NULL" else "SET NOT NULL"), alter ++ default] ++
    (if column.type = .enumeration then
      ["DROP CONSTRAINT IF EXISTS " ++ constraint,
        "ADD CONSTRAINT " ++ constraint ++ " " ++ dialect.enumerationCheck column]
    else [])

def change (dialect : SchemaDialect) (blueprint : Blueprint) (context : TableContext) :
    Except Fault (List String) :=
  match dialect.vendor with
  | .sqlite => dialect.rebuildChanged blueprint context
  | .mysql =>
      let changes := blueprint.changed.map fun column =>
        "CHANGE " ++ dialect.column column.name ++ " " ++ dialect.columnDefinition column
      .ok [dialect.alterTable blueprint (", ".intercalate changes)]
  | .postgres =>
      let changes := blueprint.changed.flatMap (dialect.alterColumn blueprint)
      .ok [dialect.alterTable blueprint (", ".intercalate changes)]

/-- SQLite rebuilds a table whose columns are known. -/
def dropColumns (dialect : SchemaDialect) (blueprint : Blueprint) (columns : List String)
    (context : TableContext) : List String :=
  match dialect.vendor with
  | .sqlite =>
      if context.columns = [] then
        columns.map fun column =>
          dialect.alterTable blueprint ("DROP COLUMN " ++ dialect.column column)
      else dialect.rebuildWithout blueprint columns context
  | .mysql =>
      [dialect.alterTable blueprint
        (", ".intercalate (columns.map fun column => "DROP " ++ dialect.column column))]
  | .postgres =>
      [dialect.alterTable blueprint
        (", ".intercalate (columns.map fun column => "DROP COLUMN " ++ dialect.column column))]

def renameColumn (dialect : SchemaDialect) (blueprint : Blueprint) (column name : String)
    (context : TableContext) : List String :=
  let statement := dialect.alterTable blueprint
    ("RENAME COLUMN " ++ dialect.column column ++ " TO " ++ dialect.column name)
  match dialect.vendor with
  | .sqlite => withoutForeignKeys context [statement]
  | _ => [statement]

def rename (dialect : SchemaDialect) (blueprint : Blueprint) (name : String) : String :=
  match dialect.vendor with
  | .mysql => "RENAME TABLE " ++ dialect.tableOf blueprint ++ " TO " ++ dialect.table name
  | _ => dialect.alterTable blueprint ("RENAME TO " ++ dialect.table name)

/-! Indexes and keys -/

/-- SQLite declares primary and foreign keys only when it creates a table. -/
def addPrimary (dialect : SchemaDialect) (blueprint : Blueprint) (index : IndexSpec) :
    List String :=
  match dialect.vendor with
  | .sqlite => []
  | _ => [dialect.alterTable blueprint ("ADD PRIMARY KEY (" ++ dialect.columns index.columns ++ ")")]

def addUnique (dialect : SchemaDialect) (blueprint : Blueprint) (index : IndexSpec) : String :=
  let columns := "(" ++ dialect.columns index.columns ++ ")"
  match dialect.vendor with
  | .sqlite =>
      "CREATE UNIQUE INDEX " ++ index.name ++ " ON " ++ dialect.tableOf blueprint ++ " " ++ columns
  | .mysql => dialect.alterTable blueprint ("ADD UNIQUE " ++ index.name ++ columns)
  | .postgres =>
      dialect.alterTable blueprint ("ADD CONSTRAINT " ++ index.name ++ " UNIQUE " ++ columns)

def addIndex (dialect : SchemaDialect) (blueprint : Blueprint) (index : IndexSpec) : String :=
  let columns := "(" ++ dialect.columns index.columns ++ ")"
  match dialect.vendor with
  | .mysql => dialect.alterTable blueprint ("ADD INDEX " ++ index.name ++ columns)
  | _ => "CREATE INDEX " ++ index.name ++ " ON " ++ dialect.tableOf blueprint ++ " " ++ columns

def addForeign (dialect : SchemaDialect) (blueprint : Blueprint) (key : ForeignKey) : List String :=
  match dialect.vendor with
  | .sqlite => []
  | _ =>
      [dialect.alterTable blueprint
        ("ADD CONSTRAINT " ++ key.name ++ " " ++ dialect.foreignClause key)]

def dropPrimary (dialect : SchemaDialect) (blueprint : Blueprint) (name : String) :
    Except Fault String :=
  match dialect.vendor with
  | .sqlite => .error (.dropPrimary blueprint.table)
  | .mysql => .ok (dialect.alterTable blueprint "DROP PRIMARY KEY")
  | .postgres => .ok (dialect.alterTable blueprint ("DROP CONSTRAINT " ++ name))

def dropUnique (dialect : SchemaDialect) (blueprint : Blueprint) (name : String) : String :=
  match dialect.vendor with
  | .sqlite => "DROP INDEX " ++ name
  | .mysql => dialect.alterTable blueprint ("DROP INDEX " ++ name)
  | .postgres => dialect.alterTable blueprint ("DROP CONSTRAINT " ++ name)

def dropIndex (dialect : SchemaDialect) (blueprint : Blueprint) (name : String) : String :=
  match dialect.vendor with
  | .mysql => dialect.alterTable blueprint ("DROP INDEX " ++ name)
  | _ => "DROP INDEX " ++ name

def dropForeign (dialect : SchemaDialect) (blueprint : Blueprint) (name : String) :
    Except Fault String :=
  match dialect.vendor with
  | .sqlite => .error (.dropForeign name blueprint.table)
  | .mysql => .ok (dialect.alterTable blueprint ("DROP FOREIGN KEY " ++ name))
  | .postgres => .ok (dialect.alterTable blueprint ("DROP CONSTRAINT " ++ name))

/-! All commands -/

def command (dialect : SchemaDialect) (blueprint : Blueprint) (context : TableContext) :
    Command → Except Fault (List String)
  | .create => .ok [dialect.create blueprint]
  | .add => .ok (dialect.add blueprint)
  | .change => dialect.change blueprint context
  | .drop => .ok ["DROP TABLE " ++ dialect.tableOf blueprint]
  | .dropIfExists => .ok ["DROP TABLE IF EXISTS " ++ dialect.tableOf blueprint]
  | .rename name => .ok [dialect.rename blueprint name]
  | .dropColumns columns => .ok (dialect.dropColumns blueprint columns context)
  | .renameColumn column name => .ok (dialect.renameColumn blueprint column name context)
  | .primary index => .ok (dialect.addPrimary blueprint index)
  | .unique index => .ok [dialect.addUnique blueprint index]
  | .index index => .ok [dialect.addIndex blueprint index]
  | .foreign key => .ok (dialect.addForeign blueprint key)
  | .dropPrimary name => (dialect.dropPrimary blueprint name).map ([·])
  | .dropUnique name => .ok [dialect.dropUnique blueprint name]
  | .dropIndex name => .ok [dialect.dropIndex blueprint name]
  | .dropForeign name => (dialect.dropForeign blueprint name).map ([·])

/-- The statements of the commands of a blueprint as it is, in their order. -/
def statements (dialect : SchemaDialect) (blueprint : Blueprint) (context : TableContext) :
    Except Fault (List String) := do
  return (← blueprint.commands.mapM (dialect.command blueprint context)).flatten

end SchemaDialect

end SqlToolkit
