import SqlToolkit.Schema.Statements
/-!
What statements that alter a table do to its columns, and what the commands of a blueprint are meant
to do to them. While a table is rebuilt, its rows are in a temporary copy.
-/

namespace SqlToolkit

/-- A column as SQLite keeps it: its name, and the text of its declaration behind the name. -/
structure StoredColumn where
  name : String
  declaration : String
  deriving DecidableEq, Repr

structure StoredTable where
  columns : List StoredColumn
  /-- The primary key, if it is declared apart from the columns. -/
  key : List String := []
  deriving DecidableEq, Repr

namespace StoredTable

def names (table : StoredTable) : List String :=
  table.columns.map (·.name)

def append (table : StoredTable) (columns : List StoredColumn) : StoredTable :=
  { table with columns := table.columns ++ columns }

def without (table : StoredTable) (dropped : List String) : StoredTable where
  columns := table.columns.filter fun column => !dropped.contains column.name
  key := table.key.filter fun name => !dropped.contains name

def rename (table : StoredTable) (column name : String) : StoredTable where
  columns := table.columns.map fun stored =>
    if stored.name = column then { stored with name } else stored
  key := table.key.map fun part => if part = column then name else part

/-- A table that can be created. -/
structure Sound (table : StoredTable) : Prop where
  filled : table.columns ≠ []
  distinct : table.names.Nodup
  keyed : ∀ name ∈ table.key, name ∈ table.names

instance (table : StoredTable) : Decidable table.Sound :=
  decidable_of_iff
    (table.columns ≠ [] ∧ table.names.Nodup ∧ ∀ name ∈ table.key, name ∈ table.names)
    ⟨fun ⟨filled, distinct, keyed⟩ => ⟨filled, distinct, keyed⟩,
      fun ⟨filled, distinct, keyed⟩ => ⟨filled, distinct, keyed⟩⟩

end StoredTable

/-! Statements -/

/-- A statement on a table or on its temporary copy. -/
inductive Alteration where
  /-- A setting of the connection, which no column depends on. -/
  | setting
  | addColumn (column : StoredColumn)
  | dropColumn (name : String)
  | renameColumn (column name : String)
  | copyAway (columns : List String)
  | dropTable
  | createTable (table : StoredTable)
  | copyBack (target source : List String)
  | dropCopy
  deriving DecidableEq, Repr

/-- A table, unless it is dropped, and the columns of its temporary copy, if there is one. -/
structure Storage where
  table : Option StoredTable
  copy : Option (List String) := none
  deriving DecidableEq, Repr

namespace Storage

/-- A table that is not being rebuilt. -/
def holding (table : StoredTable) : Storage :=
  { table := some table }

/-- What a statement does; nothing if it names a column or a table that is not there, or makes one
that is. -/
def perform (storage : Storage) : Alteration → Option Storage
  | .setting => some storage
  | .addColumn column =>
      storage.table.bind fun table =>
        if column.name ∈ table.names then none
        else some { storage with table := some (table.append [column]) }
  | .dropColumn name =>
      storage.table.bind fun table =>
        if name ∈ table.names ∧ name ∉ table.key ∧ (table.without [name]).columns ≠ [] then
          some { storage with table := some (table.without [name]) }
        else none
  | .renameColumn column name =>
      storage.table.bind fun table =>
        if column ∈ table.names ∧ name ∉ table.names then
          some { storage with table := some (table.rename column name) }
        else none
  | .copyAway columns =>
      storage.table.bind fun table =>
        if storage.copy = none ∧ ∀ name ∈ columns, name ∈ table.names then
          some { storage with copy := some columns }
        else none
  | .dropTable => storage.table.map fun _ => { storage with table := none }
  | .createTable table =>
      if storage.table = none ∧ table.Sound then some { storage with table := some table } else none
  | .copyBack target source =>
      storage.table.bind fun table =>
        storage.copy.bind fun copied =>
          if target.length = source.length ∧ (∀ name ∈ target, name ∈ table.names) ∧
              ∀ name ∈ source, name ∈ copied then
            some storage
          else none
  | .dropCopy => storage.copy.map fun _ => { storage with copy := none }

end Storage

/-! Commands -/

namespace ColumnInfo

/-- What follows the name of a column that is there already. -/
def declaration (info : ColumnInfo) : String :=
  (if info.type = "" then "" else " " ++ info.type) ++ (if info.notNull then " NOT NULL" else "") ++
    (info.default.map (" DEFAULT " ++ ·)).getD ""

def stored (info : ColumnInfo) : StoredColumn where
  name := info.name
  declaration := info.declaration

end ColumnInfo

/-- The table that is told of. -/
def TableContext.stored (context : TableContext) : StoredTable where
  columns := context.columns.map ColumnInfo.stored
  key := (context.columns.filter (·.primaryKey)).map (·.name)

namespace SchemaDialect

/-- What follows the name of a column that a blueprint declares. -/
def declaration (dialect : SchemaDialect) (column : Column) : String :=
  " " ++ dialect.columnType column ++
    "".intercalate (dialect.vendor.modifiers.map (dialect.modifier column))

def storedColumn (dialect : SchemaDialect) (column : Column) : StoredColumn where
  name := column.name
  declaration := dialect.declaration column

/-- A column behind a change of others or of itself. -/
def changedColumn (dialect : SchemaDialect) (changed : List Column) (stored : StoredColumn) :
    StoredColumn :=
  ((changed.find? (·.name = stored.name)).map dialect.storedColumn).getD stored

end SchemaDialect

/-- A changed column counts up, and so declares the primary key itself. -/
def Blueprint.counts (blueprint : Blueprint) : Bool :=
  blueprint.changed.any fun column => column.autoIncrement && column.isInteger

namespace Command

/-- A command that SQLite carries out by a rebuild. -/
def rebuilds : Command → Bool
  | change | dropColumns _ => true
  | _ => false

variable (dialect : SchemaDialect) (blueprint : Blueprint)

/-- What a command is meant to make of a table. -/
def applied (table : StoredTable) : Command → StoredTable
  | add => table.append (blueprint.added.map dialect.storedColumn)
  | change =>
      { columns := table.columns.map (dialect.changedColumn blueprint.changed)
        key := if blueprint.counts then [] else table.key }
  | dropColumns dropped => table.without dropped
  | renameColumn column name => table.rename column name
  | _ => table

/-- A command on the columns of a table that finds those that it names, and brings in new ones only. -/
def Applies (table : StoredTable) : Command → Prop
  | add =>
      (blueprint.added.map (·.name)).Nodup ∧ ∀ column ∈ blueprint.added, column.name ∉ table.names
  | change =>
      (blueprint.changed.map (·.name)).Nodup ∧
        ∀ column ∈ blueprint.changed, column.name ∈ table.names
  | dropColumns dropped =>
      (∀ name ∈ dropped, name ∈ table.names) ∧ ∃ name ∈ table.names, name ∉ dropped
  | renameColumn column name => column ∈ table.names ∧ name ∉ table.names
  | _ => False

instance (blueprint : Blueprint) (table : StoredTable) (command : Command) :
    Decidable (command.Applies blueprint table) :=
  match command with
  | add | change | dropColumns _ | renameColumn _ _ => inferInstanceAs (Decidable (_ ∧ _))
  | create | drop | dropIfExists | rename _ | primary _ | unique _ | index _ | foreign _
  | dropPrimary _ | dropUnique _ | dropIndex _ | dropForeign _ => inferInstanceAs (Decidable False)

/-- Commands one after the other. -/
def appliedAll (table : StoredTable) (commands : List Command) : StoredTable :=
  commands.foldl (fun table command => command.applied dialect blueprint table) table

/-- Each command applies to what those before it are meant to make of a table. -/
def Meaningful (table : StoredTable) (commands : List Command) : Prop :=
  ∀ earlier command, earlier ++ [command] <+: commands →
    command.Applies blueprint (appliedAll dialect blueprint table earlier)

variable {dialect blueprint} {table : StoredTable}

theorem Meaningful.nil : Meaningful dialect blueprint table [] := by
  intro earlier command front
  have longer := front.length_le
  simp at longer

theorem Meaningful.cons {command : Command} {rest : List Command}
    (applies : command.Applies blueprint table)
    (meaningful : Meaningful dialect blueprint (command.applied dialect blueprint table) rest) :
    Meaningful dialect blueprint table (command :: rest) := by
  intro earlier last front
  cases earlier with
  | nil =>
      obtain ⟨rfl, -⟩ := List.cons_prefix_cons.mp front
      exact applies
  | cons first more =>
      obtain ⟨rfl, within⟩ := List.cons_prefix_cons.mp front
      exact meaningful more last within

end Command

end SqlToolkit
