import SqlToolkit.Proofs.Rebuilds.Changes
import SqlToolkit.Proofs.Rebuilds.Relations
/-!
What is left of a table behind a single rebuild: all rows with their values in the columns that are
kept, the declarations of the columns that are not changed, and the primary key, unless a change that
counts takes it away and is not declared itself.
-/

namespace SqlToolkit

namespace Command

/-- The columns that a command leaves in a table. -/
def keeps : Command → String → Bool
  | dropColumns dropped, name => !dropped.contains name
  | _, _ => true

/-- The columns that a command declares anew. -/
def Redeclares (blueprint : Blueprint) : Command → String → Prop
  | change, name => ∃ column ∈ blueprint.changed, column.name = name
  | _, _ => False

/-- Changes of columns that are there, or the drop of columns that leaves one. -/
def Rebuildable (blueprint : Blueprint) (context : TableContext) : Command → Prop
  | change => ∀ column ∈ blueprint.changed, column.name ∈ context.stored.names ∧ column.Settled
  | dropColumns dropped => ∃ info ∈ context.columns, info.name ∉ dropped
  | _ => False

/-- What a command that rebuilds a table leaves as it was. -/
structure KeepsData (command : Command) (blueprint : Blueprint) (context : TableContext)
    (before after : Relation) : Prop where
  names : after.table.names = before.table.names.filter command.keeps
  rows : after.rows = before.rows.map (Row.restrict command.keeps)
  declarations : ∀ info ∈ context.columns, command.keeps info.name →
    ¬ command.Redeclares blueprint info.name → info.stored ∈ after.table.columns

/-- A table has the primary key that is left of the one told of, or a change declares one. -/
def KeepsKey (command : Command) (dialect : SchemaDialect) (blueprint : Blueprint)
    (context : TableContext) (table : StoredTable) : Prop :=
  table.key = context.stored.key.filter command.keeps ∨
    ∃ column ∈ blueprint.changed, column.counts ∧ dialect.storedColumn column ∈ table.columns

variable {dialect : SchemaDialect} {blueprint : Blueprint} {context : TableContext}
  {command : Command}

theorem names_applied (rebuildable : command.Rebuildable blueprint context) :
    (command.applied dialect blueprint context.stored).names =
      context.stored.names.filter command.keeps := by
  cases command with
  | change =>
      rw [names_change]
      exact (List.filter_eq_self.mpr fun _ _ => rfl).symm
  | dropColumns dropped => exact names_without context.stored dropped
  | _ => exact rebuildable.elim

theorem stored_mem_applied (rebuildable : command.Rebuildable blueprint context) {info : ColumnInfo}
    (there : info ∈ context.columns) (kept : command.keeps info.name)
    (same : ¬ command.Redeclares blueprint info.name) :
    info.stored ∈ (command.applied dialect blueprint context.stored).columns := by
  have told : info.stored ∈ context.stored.columns := List.mem_map_of_mem there
  cases command with
  | change =>
      have missing : blueprint.changed.find? (·.name = info.stored.name) = none := by
        refine List.find?_eq_none.mpr fun column member named => same ⟨column, member, ?_⟩
        exact of_decide_eq_true named
      have untouched : dialect.changedColumn blueprint.changed info.stored = info.stored := by
        rw [SchemaDialect.changedColumn, missing]
        rfl
      exact List.mem_map.mpr ⟨info.stored, told, untouched⟩
  | dropColumns dropped => exact List.mem_filter.mpr ⟨told, kept⟩
  | _ => exact rebuildable.elim

theorem keepsKey_applied_iff (rebuildable : command.Rebuildable blueprint context) :
    command.KeepsKey dialect blueprint context
        (command.applied dialect blueprint context.stored) ↔
      (command = .change → context.stored.key ≠ [] → blueprint.counts →
        blueprint.SuppliesKey dialect context.stored) := by
  cases command with
  | change =>
      have whole : context.stored.key.filter change.keeps = context.stored.key :=
        List.filter_eq_self.mpr fun _ _ => rfl
      rw [KeepsKey, whole, Blueprint.suppliesKey_iff]
      by_cases counts : blueprint.counts <;> by_cases key : context.stored.key = [] <;>
        simp [applied, counts, key]
  | dropColumns dropped =>
      refine iff_of_true (.inl rfl) fun changes => ?_
      cases changes
  | _ => exact rebuildable.elim

end Command

namespace SchemaDialect

variable {dialect : SchemaDialect} {blueprint : Blueprint} {context : TableContext}
  {command : Command} {relation : Relation}

theorem statements_single (single : blueprint.commands = [command]) {texts : List String}
    (written : dialect.command blueprint context command = .ok texts) :
    dialect.statements blueprint context = .ok texts := by
  simp only [statements, single, List.mapM_cons, List.mapM_nil, written]
  exact congrArg Except.ok (List.append_nil texts)

theorem run_command (sqlite : dialect.vendor = .sqlite) (told : context.Told)
    (names : relation.table.names = context.stored.names)
    (rebuildable : command.Rebuildable blueprint context) :
    ∃ statements, dialect.command blueprint context command = .ok statements ∧
      dialect.run blueprint ⟨context.foreignKeys, some relation, none⟩ statements =
        some ⟨context.foreignKeys,
          some (relation.into (command.applied dialect blueprint context.stored)), none⟩ := by
  have there : ∀ name ∈ (command.applied dialect blueprint context.stored).names,
      name ∈ relation.table.names := by
    rw [Command.names_applied rebuildable, names]
    exact fun name member => (List.mem_filter.mp member).1
  cases command with
  | change =>
      have settled : ∀ column ∈ blueprint.changed, column.Settled :=
        fun column member => (rebuildable column member).2
      have filled : (Command.change.applied dialect blueprint context.stored).columns ≠ [] := by
        simpa [Command.applied, TableContext.stored] using told.filled
      have sound : (Command.change.applied dialect blueprint context.stored).Sound :=
        ⟨filled, (Command.sound_change told).1, (Command.sound_change told).2⟩
      exact ⟨_, change_eq sqlite blueprint told.filled, run_rebuild sqlite blueprint context sound
        (Command.plain_change told) (Command.legible_change sqlite told settled) there⟩
  | dropColumns dropped =>
      obtain ⟨info, member, kept⟩ := rebuildable
      have filled : (context.stored.without dropped).columns ≠ [] := by
        have left : (!dropped.contains info.name) = true := by simpa using kept
        exact List.ne_nil_of_mem (List.mem_filter.mpr ⟨List.mem_map_of_mem member, left⟩)
      have sound : (context.stored.without dropped).Sound :=
        ⟨filled, (Command.sound_without told dropped).1, (Command.sound_without told dropped).2⟩
      exact ⟨_, congrArg Except.ok (dropColumns_eq sqlite blueprint told.filled dropped),
        run_rebuild sqlite blueprint context sound (Command.plain_without told dropped)
          (Command.legible_without told dropped) there⟩
  | _ => exact rebuildable.elim

/-- A single rebuild leaves the rows with all that they have in the columns that are kept, and the
columns that it does not declare anew as they are told. It leaves a primary key, if there is one,
unless a change counts, and each that counts stands behind a different change of its column. -/
theorem single_rebuild_keeps_data (sqlite : dialect.vendor = .sqlite) (told : context.Told)
    (names : relation.table.names = context.columns.map (·.name))
    (single : blueprint.commands = [command])
    (rebuildable : command.Rebuildable blueprint context) :
    ∃ statements after, dialect.statements blueprint context = .ok statements ∧
      dialect.run blueprint ⟨context.foreignKeys, some relation, none⟩ statements =
        some ⟨context.foreignKeys, some after, none⟩ ∧
      command.KeepsData blueprint context relation after ∧
      (command.KeepsKey dialect blueprint context after.table ↔
        (command = .change → context.stored.key ≠ [] → blueprint.counts →
          blueprint.SuppliesKey dialect context.stored)) := by
  rw [← TableContext.names_stored] at names
  obtain ⟨statements, written, ran⟩ := run_command sqlite told names rebuildable
  have left : (command.applied dialect blueprint context.stored).names =
      relation.table.names.filter command.keeps := by
    rw [Command.names_applied rebuildable, names]
  have distinct : relation.table.names.Nodup := by
    rw [names, TableContext.names_stored]
    exact told.distinct
  have rows : (relation.into (command.applied dialect blueprint context.stored)).rows =
      relation.rows.map (Row.restrict command.keeps) :=
    Multiset.map_congr rfl fun row member => by
      rw [left]
      exact Row.select_filter (relation.shaped row member) distinct command.keeps
  exact ⟨statements, _, statements_single single written, ran,
    ⟨left, rows, fun info there => Command.stored_mem_applied rebuildable there⟩,
    Command.keepsKey_applied_iff rebuildable⟩

end SchemaDialect

/-- Two users, one of whom has no votes. -/
def users : Relation where
  table := usersTold.stored
  rows := {⟨["id", "votes"], [.integer 1, .integer 5]⟩, ⟨["id", "votes"], [.integer 2, .null]⟩}
  shaped := by
    intro row member
    simp only [Multiset.insert_eq_cons, Multiset.mem_cons, Multiset.mem_singleton] at member
    rcases member with rfl | rfl <;> exact ⟨rfl, rfl⟩

theorem users_keep_data :
    let context : TableContext := { usersTold with foreignKeys := true }
    let blueprint : Blueprint := { changedVotes with commands := [.change] }
    sqliteDialect.vendor = .sqlite ∧ context.Told ∧
      users.table.names = context.columns.map (·.name) ∧ blueprint.commands = [.change] ∧
      Command.change.Rebuildable blueprint context ∧
      ∃ statements after, sqliteDialect.statements blueprint context = .ok statements ∧
        sqliteDialect.run blueprint ⟨true, some users, none⟩ statements =
          some ⟨true, some after, none⟩ ∧
        Command.change.KeepsData blueprint context users after ∧
        Command.change.KeepsKey sqliteDialect blueprint context after.table := by
  intro context blueprint
  have told : context.Told := ⟨usersTold_told.filled, usersTold_told.distinct, usersTold_told.plain,
    usersTold_told.settled⟩
  have rebuildable : Command.change.Rebuildable blueprint context := by
    intro column member
    have declared : column ∈ changedVotes.columns := (List.mem_filter.mp member).1
    refine ⟨?_, clear_changedVotes.settled column declared⟩
    obtain rfl := List.mem_singleton.mp declared
    decide
  have sqlite : sqliteDialect.vendor = .sqlite := rfl
  have names : users.table.names = context.columns.map (·.name) := rfl
  have single : blueprint.commands = [.change] := rfl
  obtain ⟨statements, after, written, ran, data, key⟩ :=
    SchemaDialect.single_rebuild_keeps_data sqlite told names single rebuildable
  exact ⟨sqlite, told, names, single, rebuildable, statements, after, written, ran, data,
    key.mpr fun _ _ counts => absurd counts (by decide +kernel)⟩

/-- The key of the users is changed twice, and only the second change counts. -/
def changedTwice : Blueprint where
  table := "users"
  columns := [{ type := .integer, name := "id", changes := true },
    { Column.counter .integer "id" with changes := true }]
  commands := [.change]

/-- The second change keeps the primary key from being declared, and is not declared itself. -/
theorem second_change_takes_key :
    Command.change.Rebuildable changedTwice usersTold ∧ usersTold.stored.key = ["id"] ∧
      ∃ statements after, sqliteDialect.statements changedTwice usersTold = .ok statements ∧
        "CREATE TABLE \"users\" (\"id\" INTEGER NOT NULL, \"votes\" INTEGER)" ∈ statements ∧
        sqliteDialect.run changedTwice ⟨false, some users, none⟩ statements =
          some ⟨false, some after, none⟩ ∧
        ¬ Command.change.KeepsKey sqliteDialect changedTwice usersTold after.table := by
  have rebuildable : Command.change.Rebuildable changedTwice usersTold := by
    intro column member
    have declared : column ∈ changedTwice.columns := (List.mem_filter.mp member).1
    simp only [changedTwice, List.mem_cons, List.not_mem_nil, or_false] at declared
    rcases declared with rfl | rfl <;> exact ⟨by decide, nofun⟩
  have sqlite : sqliteDialect.vendor = .sqlite := rfl
  have names : users.table.names = usersTold.stored.names := rfl
  obtain ⟨statements, written, ran⟩ :=
    SchemaDialect.run_command sqlite usersTold_told names rebuildable
  have missing : ¬ changedTwice.SuppliesKey sqliteDialect usersTold.stored := by
    unfold Blueprint.SuppliesKey Blueprint.Declares
    decide +kernel
  have lost : ¬ Command.change.KeepsKey sqliteDialect changedTwice usersTold
      (Command.change.applied sqliteDialect changedTwice usersTold.stored) := fun kept =>
    missing ((Command.keepsKey_applied_iff rebuildable).mp kept rfl (by decide) (by decide +kernel))
  refine ⟨rebuildable, by decide, statements, _,
    SchemaDialect.statements_single rfl written, ?_, ran, lost⟩
  have texts : sqliteDialect.command changedTwice usersTold .change = .ok _ := rfl
  obtain rfl := Except.ok.inj (written.symm.trans texts)
  decide +kernel

end SqlToolkit
