import SqlToolkit.Proofs.Creation.Keys
/-!
Preparing a blueprint. Whatever was called on it, its commands stay as they are, those that go in
front and those that its columns imply are added, and preparing it once more changes nothing.
-/

namespace SqlToolkit

namespace Blueprint

/-- What can be called on a blueprint. A column comes with its modifiers and a foreign key with what
it refers to, since they are called on it before anything else is called on the blueprint. -/
inductive Call where
  | column (column : Column)
  | timestamps (nullable useCurrent : Bool)
  | morphs (name : String)
  | create
  | drop
  | dropIfExists
  | rename (name : String)
  | dropColumns (columns : List String)
  | renameColumn (column name : String)
  | dropTimestamps
  | dropDeletion
  | primary (columns : List String) (name : Option String)
  | unique (columns : List String) (name : Option String)
  | index (columns : List String) (name : Option String)
  | foreign (columns : List String) (name : Option String) (references : List String)
      (table : String) (onDelete onUpdate : Option ForeignAction)
  | dropPrimary (name : Option String)
  | dropUnique (name : String)
  | dropIndex (name : String)
  | dropForeign (name : String)
  | tablePrefix (text : String)
  | engine (text : String)
  | charset (text : String)
  | collation (text : String)

def call (blueprint : Blueprint) : Call → Blueprint
  | .column column => blueprint.addColumns [column]
  | .timestamps nullable useCurrent => blueprint.timestamps nullable useCurrent
  | .morphs name => blueprint.morphs name
  | .create => blueprint.addCommand .create
  | .drop => blueprint.addCommand .drop
  | .dropIfExists => blueprint.addCommand .dropIfExists
  | .rename name => blueprint.addCommand (.rename name)
  | .dropColumns columns => blueprint.addCommand (.dropColumns columns)
  | .renameColumn column name => blueprint.addCommand (.renameColumn column name)
  | .dropTimestamps => blueprint.dropTimestamps
  | .dropDeletion => blueprint.dropDeletion
  | .primary columns name => blueprint.primary columns name
  | .unique columns name => blueprint.unique columns name
  | .index columns name => blueprint.index columns name
  | .foreign columns name references table onDelete onUpdate =>
      blueprint.addCommand (.foreign
        { blueprint.foreignKey columns name with references, table, onDelete, onUpdate })
  | .dropPrimary name => blueprint.dropPrimary name
  | .dropUnique name => blueprint.addCommand (.dropUnique name)
  | .dropIndex name => blueprint.addCommand (.dropIndex name)
  | .dropForeign name => blueprint.addCommand (.dropForeign name)
  | .tablePrefix text => { blueprint with tablePrefix := text }
  | .engine text => { blueprint with engine := some text }
  | .charset text => { blueprint with charset := some text }
  | .collation text => { blueprint with collation := some text }

def calls (blueprint : Blueprint) (calls : List Call) : Blueprint :=
  calls.foldl call blueprint

variable {blueprint : Blueprint}

/-- Nobody asks for columns to be added or changed but by declaring them. -/
theorem commands_call (blueprint : Blueprint) (next : Call) :
    ∃ more, (blueprint.call next).commands = blueprint.commands ++ more ∧
      .add ∉ more ∧ .change ∉ more := by
  cases next with
  | column | timestamps | tablePrefix | engine | charset | collation =>
      exact ⟨[], (List.append_nil _).symm, List.not_mem_nil, List.not_mem_nil⟩
  | _ => exact ⟨[_], rfl, by simp, by simp⟩

theorem commands_calls (blueprint : Blueprint) (calls : List Call) :
    ∃ more, (blueprint.calls calls).commands = blueprint.commands ++ more ∧
      .add ∉ more ∧ .change ∉ more := by
  induction calls generalizing blueprint with
  | nil => exact ⟨[], (List.append_nil _).symm, List.not_mem_nil, List.not_mem_nil⟩
  | cons next rest ih =>
      obtain ⟨first, called, noAdd, noChange⟩ := blueprint.commands_call next
      obtain ⟨others, later, noneAdds, noneChanges⟩ := ih (blueprint.call next)
      refine ⟨first ++ others, ?_, by simp [noAdd, noneAdds], by simp [noChange, noneChanges]⟩
      rw [← List.append_assoc, ← called]
      exact later

/-! Commands in front -/

theorem hasCommand_iff (command : Command)
    (lone : ∀ other : Command, other.name = command.name → other = command) :
    blueprint.hasCommand command.name = true ↔ command ∈ blueprint.commands := by
  rw [hasCommand, List.any_eq_true]
  constructor
  · rintro ⟨other, member, named⟩
    exact lone other (eq_of_beq named) ▸ member
  · intro member
    exact ⟨command, member, BEq.rfl⟩

theorem hasCommand_add_iff : blueprint.hasCommand "add" = true ↔ .add ∈ blueprint.commands :=
  hasCommand_iff .add fun other named => by cases other <;> simp_all [Command.name]

theorem hasCommand_change_iff :
    blueprint.hasCommand "change" = true ↔ .change ∈ blueprint.commands :=
  hasCommand_iff .change fun other named => by cases other <;> simp_all [Command.name]

theorem creates_iff : blueprint.creates = true ↔ .create ∈ blueprint.commands :=
  List.contains_iff_mem

/-- Adding goes in front just if a column is added to a table that is there, and changing just if
one is changed, unless they are among the commands. -/
theorem leadingCommands_eq (blueprint : Blueprint) :
    blueprint.leadingCommands =
      (if .create ∉ blueprint.commands ∧ (∃ column ∈ blueprint.columns, column.changes = false) ∧
        .add ∉ blueprint.commands then [.add] else []) ++
      (if .create ∉ blueprint.commands ∧ (∃ column ∈ blueprint.columns, column.changes = true) ∧
        .change ∉ blueprint.commands then [.change] else []) := by
  unfold leadingCommands
  by_cases creates : .create ∈ blueprint.commands
  · simp [creates_iff.mpr creates, creates]
  · simp [creates_iff, creates, added, changed, ← hasCommand_add_iff, ← hasCommand_change_iff]

theorem mem_leadingCommands {command : Command} :
    command ∈ blueprint.leadingCommands ↔
      .create ∉ blueprint.commands ∧ command ∉ blueprint.commands ∧
        (command = .add ∧ (∃ column ∈ blueprint.columns, column.changes = false) ∨
          command = .change ∧ ∃ column ∈ blueprint.columns, column.changes = true) := by
  rw [leadingCommands_eq, List.mem_append]
  constructor
  · rintro (member | member) <;> split at member <;> simp_all
  · rintro ⟨table, absent, ⟨rfl, there⟩ | ⟨rfl, there⟩⟩ <;> simp [table, absent, there]

/-! Indexes of columns -/

/-- The command that a column implies by being flagged, under the usual name. -/
def Implies (blueprint : Blueprint) (column : Column) : Command → Prop
  | .primary index => column.primary = true ∧
      index = ⟨blueprint.indexName "primary" [column.name], [column.name]⟩
  | .unique index => column.unique = true ∧
      index = ⟨blueprint.indexName "unique" [column.name], [column.name]⟩
  | .index index => column.index = true ∧
      index = ⟨blueprint.indexName "index" [column.name], [column.name]⟩
  | _ => False

theorem mem_columnIndexes_iff {column : Column} {command : Command} :
    command ∈ blueprint.columnIndexes column ↔ blueprint.Implies column command := by
  unfold columnIndexes indexSpec
  cases command <;> simp [Implies]

theorem Implies.not_leading {column : Column} {command : Command}
    (implied : blueprint.Implies column command) : command ∉ blueprint.leadingCommands := by
  intro member
  obtain ⟨-, -, ⟨rfl, -⟩ | ⟨rfl, -⟩⟩ := mem_leadingCommands.mp member <;> exact implied

end Blueprint

/-- The column as it is behind the preparation. -/
def Column.unflagged (column : Column) : Column :=
  { column with primary := false, unique := false, index := false }

namespace Blueprint

variable {blueprint : Blueprint}

/-- Preparing a blueprint puts commands in front of its commands and behind them. -/
theorem prepared_eq (blueprint : Blueprint) :
    ∃ implied,
      blueprint.prepared = { blueprint with
        columns := blueprint.columns.map Column.unflagged
        commands := blueprint.leadingCommands ++ blueprint.commands ++ implied } ∧
      implied.Nodup ∧
      ∀ command, command ∈ implied ↔
        (∃ column ∈ blueprint.columns, blueprint.Implies column command) ∧
          command ∉ blueprint.commands := by
  obtain ⟨implied, appended, distinct, listed⟩ :=
    appendMissing_eq (blueprint.leadingCommands ++ blueprint.commands)
      (blueprint.columns.flatMap blueprint.columnIndexes)
  refine ⟨implied, by rw [← appended]; rfl, distinct, fun command => ?_⟩
  rw [listed, List.mem_flatMap, List.mem_append, not_or]
  simp only [mem_columnIndexes_iff]
  constructor
  · rintro ⟨implies, -, absent⟩
    exact ⟨implies, absent⟩
  · rintro ⟨⟨column, member, implies⟩, absent⟩
    exact ⟨⟨column, member, implies⟩, implies.not_leading, absent⟩

theorem mem_prepared_commands {command : Command} :
    command ∈ blueprint.prepared.commands ↔
      command ∈ blueprint.leadingCommands ∨ command ∈ blueprint.commands ∨
        ∃ column ∈ blueprint.columns, blueprint.Implies column command := by
  obtain ⟨implied, shape, -, listed⟩ := blueprint.prepared_eq
  rw [shape, List.mem_append, List.mem_append, listed, or_assoc]
  by_cases there : command ∈ blueprint.commands <;> simp [there]

/-- A prepared blueprint has what would go in front. -/
theorem leadingCommands_prepared (blueprint : Blueprint) :
    blueprint.prepared.leadingCommands = [] := by
  have unaltered (flag : Bool) : (∃ column ∈ blueprint.prepared.columns, column.changes = flag) ↔
      ∃ column ∈ blueprint.columns, column.changes = flag := by
    simp [prepared]
  rw [List.eq_nil_iff_forall_not_mem]
  intro command member
  rw [mem_leadingCommands, unaltered, unaltered] at member
  obtain ⟨table, absent, cause⟩ := member
  simp only [mem_prepared_commands, not_or] at table absent
  exact absent.1 (mem_leadingCommands.mpr ⟨table.2.1, absent.2.1, cause⟩)

theorem prepared_prepared (blueprint : Blueprint) :
    blueprint.prepared.prepared = blueprint.prepared := by
  obtain ⟨implied, shape, -, listed⟩ := blueprint.prepared.prepared_eq
  have columns : blueprint.prepared.columns = blueprint.columns.map Column.unflagged := rfl
  have nothing : implied = [] := by
    rw [List.eq_nil_iff_forall_not_mem]
    intro command member
    obtain ⟨⟨column, flagged, implies⟩, -⟩ := (listed command).mp member
    obtain ⟨before, -, rfl⟩ := List.mem_map.mp (columns ▸ flagged)
    cases command <;> simp [Implies, Column.unflagged] at implies
  rw [shape, nothing, leadingCommands_prepared, List.append_nil, List.nil_append, columns,
    List.map_map]
  rfl

end Blueprint

/-- Compiles a blueprint, which stays prepared. -/
def SchemaDialect.compile (dialect : SchemaDialect) (context : TableContext) :
    StateM Blueprint (Except Fault (List String)) :=
  modifyGet fun blueprint =>
    (dialect.statements blueprint.prepared context, blueprint.prepared)

/-- Whatever was called on a blueprint, preparing it puts adding and changing columns in front, each
just if there are such columns and the table is not created, and keeps all commands in order. Behind
them come the indexes that the columns imply, once each and unless they are among the commands. The
blueprint then stays as it is, and it is compiled again with the same result. -/
theorem Blueprint.prepared_once (table : String) (calls : List Blueprint.Call)
    (dialect : SchemaDialect) (context : TableContext) :
    let blueprint := ({ table } : Blueprint).calls calls
    (∃ implied,
      blueprint.prepared = { blueprint with
        columns := blueprint.columns.map Column.unflagged
        commands :=
          (if .create ∉ blueprint.commands ∧ ∃ column ∈ blueprint.columns, column.changes = false
            then [.add] else []) ++
          (if .create ∉ blueprint.commands ∧ ∃ column ∈ blueprint.columns, column.changes = true
            then [.change] else []) ++
          blueprint.commands ++ implied } ∧
      implied.Nodup ∧
      (∀ command, command ∈ implied ↔
        (∃ column ∈ blueprint.columns, blueprint.Implies column command) ∧
          command ∉ blueprint.commands) ∧
      ∀ command, command ∈ blueprint.commands ++ implied ↔
        command ∈ blueprint.commands ∨
          ∃ column ∈ blueprint.columns, blueprint.Implies column command) ∧
    .add ∉ blueprint.commands ∧ .change ∉ blueprint.commands ∧
    blueprint.prepared.prepared = blueprint.prepared ∧
    let (texts, compiled) := (dialect.compile context).run blueprint
    (dialect.compile context).run compiled = (texts, compiled) := by
  intro blueprint
  obtain ⟨commands, called, noAdd, noChange⟩ := ({ table } : Blueprint).commands_calls calls
  replace called : blueprint.commands = commands := called
  rw [← called] at noAdd noChange
  obtain ⟨implied, shape, distinct, listed⟩ := blueprint.prepared_eq
  have front := blueprint.leadingCommands_eq
  simp only [noAdd, noChange, not_false_eq_true, and_true] at front
  refine ⟨⟨implied, front ▸ shape, distinct, listed, ?_⟩, noAdd, noChange,
    blueprint.prepared_prepared, ?_⟩
  · intro command
    rw [List.mem_append, listed]
    by_cases there : command ∈ blueprint.commands <;> simp [there]
  · show (dialect.statements blueprint.prepared.prepared context, blueprint.prepared.prepared) =
      (dialect.statements blueprint.prepared context, blueprint.prepared)
    rw [blueprint.prepared_prepared]

/-- An index that is declared for a flagged column already is not added. -/
example :
    (({ table := "users" } : Blueprint).calls [.unique ["email"] none,
      .column { Column.string "email" with unique := true }]).prepared.commands =
      [.add, .unique ⟨"users_email_unique", ["email"]⟩] := by
  decide

end SqlToolkit
