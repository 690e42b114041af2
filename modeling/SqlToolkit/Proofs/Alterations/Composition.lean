import Mathlib.Data.List.Induction
import SqlToolkit.Proofs.Alterations.Commands
/-!
Whether the statements of a blueprint do together what its commands are meant to do one after the
other. Each rebuild is written for the table as it was told of before any statement was executed.
-/

namespace SqlToolkit

open Reading

/-- What is told of a table that is there. -/
structure TableContext.Told (context : TableContext) : Prop where
  filled : context.columns ≠ []
  distinct : (context.columns.map (·.name)).Nodup
  plain : ∀ info ∈ context.columns, Plain info.name
  settled : ∀ info ∈ context.columns, info.Settled

/-- A blueprint whose names are written as single names, and whose columns leave nothing open. -/
structure Blueprint.Clear (blueprint : Blueprint) : Prop where
  plain : ∀ column ∈ blueprint.columns, Plain column.name
  settled : ∀ column ∈ blueprint.columns, column.Settled
  renames : ∀ column name, .renameColumn column name ∈ blueprint.commands →
    Plain column ∧ Plain name

namespace Blueprint

theorem of_mem_appendMissing {commands more : List Command} {command : Command}
    (member : command ∈ appendMissing commands more) : command ∈ commands ∨ command ∈ more := by
  induction more generalizing commands with
  | nil => exact .inl member
  | cons next rest ih =>
      rw [appendMissing] at member
      rcases ih member with old | new
      · split at old
        · exact .inl old
        · rcases List.mem_append.mp old with old | last
          · exact .inl old
          · exact .inr (List.mem_cons.mpr (.inl (List.mem_singleton.mp last)))
      · exact .inr (List.mem_cons_of_mem next new)

theorem rename_of_prepared {blueprint : Blueprint} {column name : String}
    (member : .renameColumn column name ∈ blueprint.prepared.commands) :
    .renameColumn column name ∈ blueprint.commands := by
  rcases of_mem_appendMissing member with front | implied
  · rcases List.mem_append.mp front with leading | own
    · unfold leadingCommands at leading
      split at leading
      · cases leading
      · rcases List.mem_append.mp leading with added | changed
        · split at added <;> simp at added
        · split at changed <;> simp at changed
    · exact own
  · obtain ⟨declared, -, index⟩ := List.mem_flatMap.mp implied
    unfold columnIndexes at index
    cases declared.primary <;> cases declared.unique <;> cases declared.index <;> simp at index

theorem Clear.prepared {blueprint : Blueprint} (clear : blueprint.Clear) :
    blueprint.prepared.Clear where
  plain column member := by
    obtain ⟨declared, there, rfl⟩ := List.mem_map.mp member
    exact clear.plain declared there
  settled column member := by
    obtain ⟨declared, there, rfl⟩ := List.mem_map.mp member
    exact clear.settled declared there
  renames column name member := clear.renames column name (rename_of_prepared member)

end Blueprint

namespace TableContext

variable {context : TableContext}

theorem names_stored (context : TableContext) :
    context.stored.names = context.columns.map (·.name) := by
  simp [stored, StoredTable.names, ColumnInfo.stored, Function.comp_def]

theorem keyed_stored (context : TableContext) :
    ∀ name ∈ context.stored.key, name ∈ context.stored.names := by
  intro name member
  rw [names_stored]
  obtain ⟨info, there, rfl⟩ := List.mem_map.mp member
  exact List.mem_map_of_mem (List.mem_filter.mp there).1

theorem Told.plain_stored (told : context.Told) : ∀ name ∈ context.stored.names, Plain name := by
  intro name member
  rw [names_stored] at member
  obtain ⟨info, there, rfl⟩ := List.mem_map.mp member
  exact told.plain info there

theorem Told.legible_stored (told : context.Told) :
    ∀ column ∈ context.stored.columns, Legible column.declaration := by
  intro column member
  obtain ⟨info, there, rfl⟩ := List.mem_map.mp member
  exact ColumnInfo.legible_declaration (told.settled info there)

end TableContext

namespace SchemaDialect

variable {dialect : SchemaDialect} (sqlite : dialect.vendor = .sqlite) (blueprint : Blueprint)
  {context : TableContext}

theorem name_changedColumn (dialect : SchemaDialect) (changed : List Column)
    (stored : StoredColumn) : (dialect.changedColumn changed stored).name = stored.name := by
  unfold changedColumn
  cases found : changed.find? (·.name = stored.name) with
  | none => rfl
  | some column =>
      show column.name = stored.name
      simpa using List.find?_some found

theorem legible_changedColumn (sqlite : dialect.vendor = .sqlite) {changed : List Column}
    (settled : ∀ column ∈ changed, column.Settled) {stored : StoredColumn}
    (legible : Legible stored.declaration) :
    Legible (dialect.changedColumn changed stored).declaration := by
  unfold changedColumn
  cases found : changed.find? (·.name = stored.name) with
  | none => exact legible
  | some column =>
      exact legible_declaration sqlite (settled column (List.mem_of_find?_eq_some found))

theorem changedDefinition_eq (dialect : SchemaDialect) (changed : List Column) (info : ColumnInfo) :
    dialect.changedDefinition changed info =
      dialect.column (dialect.changedColumn changed info.stored).name ++
        (dialect.changedColumn changed info.stored).declaration := by
  unfold changedDefinition changedColumn
  have name : info.stored.name = info.name := rfl
  rw [name]
  cases changed.find? (·.name = info.name) with
  | none => exact existingDefinition_eq dialect info
  | some column => exact columnDefinition_eq dialect column

theorem primaryKeyClause_eq (dialect : SchemaDialect) (columns : List ColumnInfo) :
    dialect.primaryKeyClause columns =
      if ((columns.filter (·.primaryKey)).map (·.name)) = [] then []
      else ["PRIMARY KEY (" ++
        dialect.columns ((columns.filter (·.primaryKey)).map (·.name)) ++ ")"] := by
  unfold primaryKeyClause
  cases columns.filter (·.primaryKey) with
  | nil => rfl
  | cons info more => rfl

include sqlite

/-- The rebuild of a change declares what the change is meant to make of what was told. -/
theorem change_eq (told : context.columns ≠ []) :
    dialect.change blueprint context = .ok (dialect.rebuild blueprint
      (dialect.definitions (Command.change.applied dialect blueprint context.stored))
      (Command.change.applied dialect blueprint context.stored).names context) := by
  have names : (Command.change.applied dialect blueprint context.stored).names =
      context.columns.map (·.name) := by
    simp [Command.applied, StoredTable.names, TableContext.stored, name_changedColumn,
      ColumnInfo.stored, Function.comp_def]
  have columns : context.columns.map (dialect.changedDefinition blueprint.changed) =
      (Command.change.applied dialect blueprint context.stored).columns.map fun column =>
        dialect.column column.name ++ column.declaration := by
    simp [Command.applied, TableContext.stored, changedDefinition_eq, Function.comp_def]
  have key : (if blueprint.counts then [] else dialect.primaryKeyClause context.columns) =
      if (Command.change.applied dialect blueprint context.stored).key = [] then []
      else ["PRIMARY KEY (" ++ dialect.columns
        (Command.change.applied dialect blueprint context.stored).key ++ ")"] := by
    rw [primaryKeyClause_eq]
    by_cases counts : blueprint.counts = true <;>
      simp [Command.applied, TableContext.stored, counts]
  have written : dialect.change blueprint context = .ok (dialect.rebuild blueprint
      (context.columns.map (dialect.changedDefinition blueprint.changed) ++
        if blueprint.counts then [] else dialect.primaryKeyClause context.columns)
      (context.columns.map (·.name)) context) := by
    unfold change
    rw [sqlite]
    exact if_neg told
  rw [written, columns, key, names]
  rfl

/-- The rebuild of a drop declares what is meant to be left of what was told. -/
theorem dropColumns_eq (told : context.columns ≠ []) (dropped : List String) :
    dialect.dropColumns blueprint dropped context = dialect.rebuild blueprint
      (dialect.definitions (context.stored.without dropped))
      (context.stored.without dropped).names context := by
  have columns : (context.stored.without dropped).columns =
      (context.columns.filter fun info => !dropped.contains info.name).map ColumnInfo.stored := by
    simp only [StoredTable.without, TableContext.stored, List.filter_map]
    rfl
  have key : (context.stored.without dropped).key =
      ((context.columns.filter fun info => !dropped.contains info.name).filter
        (·.primaryKey)).map (·.name) := by
    simp only [StoredTable.without, TableContext.stored, List.filter_map, List.filter_filter]
    congr 1
    refine List.filter_congr fun info _ => ?_
    simp [Bool.and_comm]
  have names : (context.stored.without dropped).names =
      (context.columns.filter fun info => !dropped.contains info.name).map (·.name) := by
    rw [StoredTable.names, columns, List.map_map]
    rfl
  have existing (infos : List ColumnInfo) : infos.map dialect.existingDefinition =
      (infos.map ColumnInfo.stored).map fun column =>
        dialect.column column.name ++ column.declaration := by
    rw [List.map_map]
    exact List.map_congr_left fun info _ => existingDefinition_eq dialect info
  unfold dropColumns
  rw [sqlite]
  simp only [if_neg told, rebuildWithout, existing, primaryKeyClause_eq, definitions, columns, key,
    names]

end SchemaDialect

namespace Command

variable {dialect : SchemaDialect} {blueprint : Blueprint} {context : TableContext}
  {stored : StoredTable}

/-- A rebuild goes right just if it makes of what was told what it is meant to make of the table. -/
theorem execute_rebuild_iff (sqlite : dialect.vendor = .sqlite) {rebuilt meant : StoredTable}
    (sound : rebuilt.names.Nodup ∧ ∀ name ∈ rebuilt.key, name ∈ rebuilt.names)
    (plain : ∀ name ∈ rebuilt.names, Plain name)
    (legible : ∀ column ∈ rebuilt.columns, Legible column.declaration)
    (filled : meant.columns ≠ []) (found : ∀ name ∈ meant.names, name ∈ stored.names) :
    dialect.execute blueprint (.holding stored)
        (dialect.rebuild blueprint (dialect.definitions rebuilt) rebuilt.names context) =
      some (.holding meant) ↔ rebuilt = meant := by
  rw [SchemaDialect.execute_rebuild sqlite blueprint context sound plain legible]
  constructor
  · intro executed
    split at executed
    · simpa [Storage.holding] using executed
    · cases executed
  · rintro rfl
    exact if_pos ⟨filled, found⟩

theorem names_change (dialect : SchemaDialect) (blueprint : Blueprint) (stored : StoredTable) :
    (change.applied dialect blueprint stored).names = stored.names := by
  simp [applied, StoredTable.names, SchemaDialect.name_changedColumn, Function.comp_def]

theorem filled_applied {command : Command} (filled : stored.columns ≠ [])
    (applies : command.Applies blueprint stored) :
    (command.applied dialect blueprint stored).columns ≠ [] := by
  cases command with
  | add => simp [applied, StoredTable.append, filled]
  | change => simpa [applied] using filled
  | dropColumns dropped =>
      obtain ⟨-, name, member, kept⟩ := applies
      obtain ⟨column, there, rfl⟩ := List.mem_map.mp member
      exact List.ne_nil_of_mem (List.mem_filter.mpr ⟨there, by simpa using kept⟩)
  | renameColumn column name => simpa [applied, StoredTable.rename] using filled
  | _ => exact filled

theorem names_without (stored : StoredTable) (dropped : List String) :
    (stored.without dropped).names = stored.names.filter fun name => !dropped.contains name := by
  simp only [StoredTable.without, StoredTable.names, List.filter_map]
  rfl

theorem sound_change (told : context.Told) :
    (change.applied dialect blueprint context.stored).names.Nodup ∧
      ∀ name ∈ (change.applied dialect blueprint context.stored).key,
        name ∈ (change.applied dialect blueprint context.stored).names := by
  rw [names_change]
  refine ⟨?_, fun name member => ?_⟩
  · rw [TableContext.names_stored]
    exact told.distinct
  · simp only [applied] at member
    split at member
    · cases member
    · exact TableContext.keyed_stored context name member

theorem plain_change (told : context.Told) :
    ∀ name ∈ (change.applied dialect blueprint context.stored).names, Plain name := by
  rw [names_change]
  exact told.plain_stored

theorem legible_change (sqlite : dialect.vendor = .sqlite) (told : context.Told)
    (settled : ∀ column ∈ blueprint.changed, column.Settled) :
    ∀ column ∈ (change.applied dialect blueprint context.stored).columns,
      Legible column.declaration := by
  intro column member
  obtain ⟨old, there, rfl⟩ := List.mem_map.mp member
  exact SchemaDialect.legible_changedColumn sqlite settled (told.legible_stored old there)

theorem execute_change_iff (sqlite : dialect.vendor = .sqlite) (told : context.Told)
    (clear : blueprint.Clear)
    (filled : (change.applied dialect blueprint stored).columns ≠ []) :
    ∃ statements, dialect.change blueprint context = .ok statements ∧
      (dialect.execute blueprint (.holding stored) statements =
          some (.holding (change.applied dialect blueprint stored)) ↔
        change.applied dialect blueprint context.stored =
          change.applied dialect blueprint stored) := by
  have settled : ∀ column ∈ blueprint.changed, column.Settled :=
    fun column member => clear.settled column (List.mem_filter.mp member).1
  refine ⟨_, SchemaDialect.change_eq sqlite blueprint told.filled, ?_⟩
  refine execute_rebuild_iff sqlite (sound_change told) (plain_change told)
    (legible_change sqlite told settled) filled ?_
  rw [names_change]
  exact fun _ member => member

theorem sound_without (told : context.Told) (dropped : List String) :
    (context.stored.without dropped).names.Nodup ∧
      ∀ name ∈ (context.stored.without dropped).key,
        name ∈ (context.stored.without dropped).names := by
  have distinct : context.stored.names.Nodup := by
    rw [TableContext.names_stored]
    exact told.distinct
  rw [names_without]
  refine ⟨distinct.filter _, fun name member => ?_⟩
  obtain ⟨there, left⟩ := List.mem_filter.mp member
  exact List.mem_filter.mpr ⟨TableContext.keyed_stored context name there, left⟩

theorem plain_without (told : context.Told) (dropped : List String) :
    ∀ name ∈ (context.stored.without dropped).names, Plain name := by
  rw [names_without]
  exact fun name member => told.plain_stored name (List.mem_filter.mp member).1

theorem legible_without (told : context.Told) (dropped : List String) :
    ∀ column ∈ (context.stored.without dropped).columns, Legible column.declaration :=
  fun column member => told.legible_stored column (List.mem_filter.mp member).1

theorem execute_dropColumns_iff (sqlite : dialect.vendor = .sqlite) (blueprint : Blueprint)
    (told : context.Told) (dropped : List String) (filled : (stored.without dropped).columns ≠ []) :
    dialect.execute blueprint (.holding stored) (dialect.dropColumns blueprint dropped context) =
        some (.holding (stored.without dropped)) ↔
      context.stored.without dropped = stored.without dropped := by
  rw [SchemaDialect.dropColumns_eq sqlite blueprint told.filled]
  refine execute_rebuild_iff sqlite (sound_without told dropped) (plain_without told dropped)
    (legible_without told dropped) filled fun name member => ?_
  rw [names_without] at member
  exact (List.mem_filter.mp member).1

/-- The statements of a command do what it is meant to do; a rebuild does so just if it makes the
same of what was told. -/
theorem execute_iff (sqlite : dialect.vendor = .sqlite) (told : context.Told)
    (clear : blueprint.Clear) {command : Command}
    (renames : ∀ column name, command = .renameColumn column name → Plain column ∧ Plain name)
    (filled : stored.columns ≠ []) (applies : command.Applies blueprint stored) :
    ∃ statements, dialect.command blueprint context command = .ok statements ∧
      (dialect.execute blueprint (.holding stored) statements =
          some (.holding (command.applied dialect blueprint stored)) ↔
        (command.rebuilds →
          command.applied dialect blueprint context.stored =
            command.applied dialect blueprint stored)) := by
  have filledToo : (command.applied dialect blueprint stored).columns ≠ [] :=
    filled_applied filled applies
  cases command with
  | add =>
      refine ⟨_, rfl, iff_of_true ?_ (by simp [rebuilds])⟩
      obtain ⟨apart, fresh⟩ := applies
      have statements : dialect.add blueprint = blueprint.added.map fun column =>
          dialect.alterTable blueprint ("ADD COLUMN " ++ dialect.columnDefinition column) := by
        simp only [SchemaDialect.add, sqlite, SchemaDialect.columnDefinitions, List.map_map]
        rfl
      have column (column : Column) (member : column ∈ blueprint.added) :
          column ∈ blueprint.columns := (List.mem_filter.mp member).1
      rw [statements]
      exact SchemaDialect.execute_adding sqlite blueprint blueprint.added
        (fun added member => clear.plain added (column added member))
        (fun added member => clear.settled added (column added member)) apart fresh
  | change =>
      obtain ⟨statements, written, iff⟩ := execute_change_iff sqlite told clear filledToo
      refine ⟨statements, written, ?_⟩
      simpa [rebuilds] using iff
  | dropColumns dropped =>
      refine ⟨_, rfl, ?_⟩
      have iff := execute_dropColumns_iff sqlite blueprint told dropped filledToo
      simpa [rebuilds, applied] using iff
  | renameColumn column name =>
      obtain ⟨there, fresh⟩ := applies
      obtain ⟨plain, plainToo⟩ := renames column name rfl
      refine ⟨_, rfl, iff_of_true ?_ (by simp [rebuilds])⟩
      exact SchemaDialect.execute_renaming sqlite blueprint context plain plainToo there fresh
  | _ => exact applies.elim

theorem appliedAll_append (earlier : List Command) (command : Command) :
    appliedAll dialect blueprint stored (earlier ++ [command]) =
      command.applied dialect blueprint (appliedAll dialect blueprint stored earlier) := by
  simp [appliedAll]

theorem Meaningful.filled {commands : List Command}
    (meaningful : Meaningful dialect blueprint stored commands) (filled : stored.columns ≠ []) :
    (appliedAll dialect blueprint stored commands).columns ≠ [] := by
  induction commands using List.reverseRecOn with
  | nil => exact filled
  | append_singleton earlier command ih =>
      have before := ih fun first next front =>
        meaningful first next (front.trans (List.prefix_append earlier [command]))
      rw [appliedAll_append]
      exact filled_applied before (meaningful earlier command List.prefix_rfl)

theorem Meaningful.of_prefix {earlier commands : List Command}
    (meaningful : Meaningful dialect blueprint stored commands) (front : earlier <+: commands) :
    Meaningful dialect blueprint stored earlier :=
  fun first next within => meaningful first next (within.trans front)

end Command

namespace SchemaDialect

variable {dialect : SchemaDialect} {blueprint : Blueprint} {context : TableContext}

/-- Which other commands a blueprint has matters to the creation of a table only. -/
theorem command_congr {stored : StoredTable} {command : Command} (commands : List Command)
    (applies : command.Applies blueprint stored) :
    dialect.command { blueprint with commands } context command =
      dialect.command blueprint context command := by
  cases command with
  | create => exact applies.elim
  | _ => rfl

theorem mapM_congr {commands : List Command} {first second : Command → Except Fault (List String)}
    (same : ∀ command ∈ commands, first command = second command) :
    commands.mapM first = commands.mapM second := by
  induction commands with
  | nil => rfl
  | cons command rest ih =>
      rw [List.mapM_cons, List.mapM_cons, same command List.mem_cons_self,
        ih fun other member => same other (List.mem_cons_of_mem command member)]

theorem statements_eq {stored : StoredTable} {commands : List Command}
    (meaningful : Command.Meaningful dialect blueprint stored commands) :
    dialect.statements { blueprint with commands } context =
      (commands.mapM (dialect.command blueprint context)).map List.flatten := by
  have same : commands.mapM (dialect.command { blueprint with commands } context) =
      commands.mapM (dialect.command blueprint context) := by
    refine mapM_congr fun command member => ?_
    obtain ⟨earlier, later, split⟩ := List.append_of_mem member
    have front : earlier ++ [command] <+: commands := ⟨later, by simp [split]⟩
    exact command_congr commands (meaningful earlier command front)
  rw [statements, same]
  cases commands.mapM (dialect.command blueprint context) <;> rfl

/-- The statements of one more command stand behind those of the commands before it. -/
theorem statements_append {stored : StoredTable} {earlier : List Command} {command : Command}
    {first second : List String}
    (meaningful : Command.Meaningful dialect blueprint stored (earlier ++ [command]))
    (before : dialect.statements { blueprint with commands := earlier } context = .ok first)
    (last : dialect.command blueprint context command = .ok second) :
    dialect.statements { blueprint with commands := earlier ++ [command] } context =
      .ok (first ++ second) := by
  rw [statements_eq (meaningful.of_prefix (List.prefix_append earlier [command]))] at before
  rw [statements_eq meaningful, List.mapM_append]
  cases written : earlier.mapM (dialect.command blueprint context) with
  | error fault =>
      rw [written] at before
      cases before
  | ok lists =>
      rw [written] at before
      cases before
      rw [List.mapM_cons, last]
      exact congrArg Except.ok (by simp)

/-- Each command of a blueprint gets from the statements what it is meant to get, just if each
rebuild makes of the table that was told what it would make of the table as it is by then. -/
theorem alterations_compose_iff (sqlite : dialect.vendor = .sqlite) (told : context.Told)
    (clear : blueprint.Clear)
    (meaningful : Command.Meaningful dialect blueprint.prepared context.stored
      blueprint.prepared.commands) :
    (∀ earlier, earlier <+: blueprint.prepared.commands → ∃ statements,
      dialect.statements { blueprint.prepared with commands := earlier } context = .ok statements ∧
        dialect.execute blueprint.prepared (.holding context.stored) statements =
          some (.holding
            (Command.appliedAll dialect blueprint.prepared context.stored earlier))) ↔
      ∀ earlier command, earlier ++ [command] <+: blueprint.prepared.commands → command.rebuilds →
        command.applied dialect blueprint.prepared context.stored =
          command.applied dialect blueprint.prepared
            (Command.appliedAll dialect blueprint.prepared context.stored earlier) := by
  have filled : context.stored.columns ≠ [] := by
    simpa [TableContext.stored] using told.filled
  have one (earlier : List Command) (command : Command)
      (front : earlier ++ [command] <+: blueprint.prepared.commands) :=
    Command.execute_iff sqlite told clear.prepared
      (fun column name same => clear.prepared.renames column name
        (same ▸ front.subset (List.mem_append_right earlier (List.mem_singleton.mpr rfl))))
      ((meaningful.of_prefix ((List.prefix_append earlier [command]).trans front)).filled filled)
      (meaningful earlier command front)
  constructor
  · intro composes earlier command front rebuilds
    obtain ⟨first, before, executed⟩ :=
      composes earlier ((List.prefix_append earlier [command]).trans front)
    obtain ⟨second, last, iff⟩ := one earlier command front
    obtain ⟨whole, written, executedToo⟩ := composes (earlier ++ [command]) front
    have same := statements_append (meaningful.of_prefix front) before last
    obtain rfl : first ++ second = whole := Except.ok.inj (same.symm.trans written)
    rw [execute, Storage.execute_append, ← execute, executed, Option.bind_some, ← execute,
      Command.appliedAll_append] at executedToo
    exact iff.mp executedToo rebuilds
  · intro same earlier
    induction earlier using List.reverseRecOn with
    | nil => exact fun _ => ⟨[], rfl, rfl⟩
    | append_singleton earlier command ih =>
        intro front
        obtain ⟨first, before, executed⟩ := ih ((List.prefix_append earlier [command]).trans front)
        obtain ⟨second, last, iff⟩ := one earlier command front
        refine ⟨first ++ second, statements_append (meaningful.of_prefix front) before last, ?_⟩
        rw [execute, Storage.execute_append, ← execute, executed, Option.bind_some, ← execute,
          Command.appliedAll_append]
        exact iff.mpr (same earlier command front)

end SchemaDialect

/-- A table of users, as SQLite tells of it. -/
def usersTold : TableContext where
  columns := [⟨"id", "INTEGER", true, none, true⟩, ⟨"votes", "INTEGER", false, none, false⟩]

/-- Plain SQLite, without a prefix. -/
def sqliteDialect : SchemaDialect :=
  { vendor := .sqlite, tablePrefix := "", marker := .question }

/-- The number of votes may be missing. -/
def optionalVotes : Column :=
  { type := .integer, name := "votes", nullable := true, changes := true }

theorem usersTold_told : usersTold.Told where
  filled := by decide
  distinct := by decide
  plain := by decide +kernel
  settled := by
    intro info member
    simp only [usersTold, List.mem_cons, List.not_mem_nil, or_false] at member
    rcases member with rfl | rfl <;> exact ⟨by decide, nofun⟩

def changedVotes : Blueprint :=
  { table := "users", columns := [optionalVotes] }

/-- A new column, and the change of another one behind it. -/
def emailAndVotes : Blueprint :=
  { table := "users", columns := [{ Column.string "email" with nullable := true }, optionalVotes] }

theorem clear_changedVotes : changedVotes.Clear where
  plain := by decide +kernel
  settled := by
    intro column member default found
    obtain rfl := List.mem_singleton.mp member
    cases found
  renames := nofun

theorem changed_column_composes :
    ∃ statements, sqliteDialect.statements changedVotes.prepared usersTold = .ok statements ∧
      sqliteDialect.execute changedVotes.prepared (.holding usersTold.stored) statements =
        some (.holding ⟨[⟨"id", " INTEGER NOT NULL"⟩, ⟨"votes", " INTEGER NULL"⟩], ["id"]⟩) := by
  have meaningful : Command.Meaningful sqliteDialect changedVotes.prepared usersTold.stored
      changedVotes.prepared.commands :=
    .cons (by decide +kernel) .nil
  have composes := (SchemaDialect.alterations_compose_iff rfl usersTold_told clear_changedVotes
    meaningful).mpr fun earlier command front _ => by
      have only : changedVotes.prepared.commands = [.change] := by decide +kernel
      rw [only] at front
      have shorter := front.length_le
      cases earlier with
      | nil => rfl
      | cons => simp at shorter
  exact composes changedVotes.prepared.commands List.prefix_rfl

/-- The rebuild for the changed column is written without the column that was just added. -/
theorem added_column_lost :
    Command.Meaningful sqliteDialect emailAndVotes.prepared usersTold.stored
        emailAndVotes.prepared.commands ∧
      Command.appliedAll sqliteDialect emailAndVotes.prepared usersTold.stored
          emailAndVotes.prepared.commands =
        ⟨[⟨"id", " INTEGER NOT NULL"⟩, ⟨"votes", " INTEGER NULL"⟩,
          ⟨"email", " VARCHAR NULL"⟩], ["id"]⟩ ∧
      ∃ statements, sqliteDialect.statements emailAndVotes.prepared usersTold = .ok statements ∧
        sqliteDialect.execute emailAndVotes.prepared (.holding usersTold.stored) statements =
          some (.holding ⟨[⟨"id", " INTEGER NOT NULL"⟩, ⟨"votes", " INTEGER NULL"⟩], ["id"]⟩) := by
  refine ⟨.cons (by decide +kernel) (.cons (by decide +kernel) .nil), by decide +kernel, _, rfl, ?_⟩
  decide +kernel

end SqlToolkit
