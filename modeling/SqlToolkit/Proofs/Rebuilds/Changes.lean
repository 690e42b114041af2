import Mathlib.Data.List.Nodup
import SqlToolkit.Proofs.Alterations.Composition
/-!
Which changes of columns a rebuild declares, and whether the table has its primary key behind them.
Changes are looked up by the names of the columns that are there, and the first of a name is taken;
whether the key is declared apart from the columns depends on all changes together.
-/

namespace SqlToolkit

open Reading

/-- A column that declares the primary key itself. -/
def Column.counts (column : Column) : Bool :=
  column.autoIncrement && column.isInteger

theorem SchemaDialect.declaration_of_counts {dialect : SchemaDialect}
    (sqlite : dialect.vendor = .sqlite) {column : Column} (counts : column.counts) :
    ∃ front, dialect.declaration column = front ++ " PRIMARY KEY AUTOINCREMENT" := by
  have increments : dialect.modifier column .increment = " PRIMARY KEY AUTOINCREMENT" := by
    rw [modifier, sqlite]
    exact if_pos counts
  refine ⟨" " ++ dialect.columnType column ++ dialect.modifier column .nullable ++
    dialect.modifier column .default, ?_⟩
  rw [declaration, sqlite]
  simp [Vendor.modifiers, String.intercalate_cons_cons, String.append_assoc, increments]

namespace Blueprint

variable (dialect : SchemaDialect) (blueprint : Blueprint)

/-- A change of a column that is there, which no other change of its name precedes with a declaration
of its own. -/
def Declares (table : StoredTable) (column : Column) : Prop :=
  column.name ∈ table.names ∧
    (blueprint.changed.find? (·.name = column.name)).map dialect.storedColumn =
      some (dialect.storedColumn column)

/-- Some change of a table declares the primary key. -/
def SuppliesKey (table : StoredTable) : Prop :=
  ∃ column ∈ blueprint.changed, column.counts ∧ blueprint.Declares dialect table column

/-- All changes are of columns that are there, and those of one column agree. -/
def Matches (table : StoredTable) : Prop :=
  (∀ column ∈ blueprint.changed, column.name ∈ table.names) ∧
    ∀ column ∈ blueprint.changed, ∀ other ∈ blueprint.changed, column.name = other.name →
      dialect.declaration column = dialect.declaration other

/-- A table has a primary key, be it declared apart from the columns or by a change of one. -/
def Keyed (table : StoredTable) : Prop :=
  table.key ≠ [] ∨
    ∃ column ∈ blueprint.changed, column.counts ∧ dialect.storedColumn column ∈ table.columns

variable {dialect blueprint} {table : StoredTable} {column : Column}

theorem counts_iff : blueprint.counts ↔ ∃ column ∈ blueprint.changed, column.counts :=
  List.any_eq_true

theorem storedColumn_eq_iff {column other : Column} (same : column.name = other.name) :
    dialect.storedColumn column = dialect.storedColumn other ↔
      dialect.declaration column = dialect.declaration other := by
  simp [SchemaDialect.storedColumn, same]

theorem exists_first (member : column ∈ blueprint.changed) :
    ∃ first ∈ blueprint.changed, first.name = column.name ∧
      blueprint.changed.find? (·.name = column.name) = some first := by
  obtain ⟨first, found⟩ : ∃ first, blueprint.changed.find? (·.name = column.name) = some first :=
    Option.isSome_iff_exists.mp (List.find?_isSome.mpr ⟨column, member, by simp⟩)
  exact ⟨first, List.mem_of_find?_eq_some found, by simpa using List.find?_some found, found⟩

/-- The first change of a name is the one that is made. -/
theorem changedColumn_eq_iff (member : column ∈ blueprint.changed) {stored : StoredColumn} :
    dialect.changedColumn blueprint.changed stored = dialect.storedColumn column ↔
      stored.name = column.name ∧
        (blueprint.changed.find? (·.name = column.name)).map dialect.storedColumn =
          some (dialect.storedColumn column) := by
  have named : dialect.changedColumn blueprint.changed stored = dialect.storedColumn column →
      stored.name = column.name := by
    intro same
    rw [← SchemaDialect.name_changedColumn dialect blueprint.changed stored, same]
    rfl
  refine (and_iff_right_of_imp named).symm.trans (and_congr_right fun same => ?_)
  obtain ⟨first, -, -, found⟩ := exists_first member
  simp [SchemaDialect.changedColumn, same, found]

theorem storedColumn_mem_iff (member : column ∈ blueprint.changed) :
    dialect.storedColumn column ∈ (Command.change.applied dialect blueprint table).columns ↔
      blueprint.Declares dialect table column := by
  simp only [Command.applied, List.mem_map, changedColumn_eq_iff member, Declares,
    StoredTable.names]
  constructor
  · rintro ⟨stored, there, named, declared⟩
    exact ⟨⟨stored, there, named⟩, declared⟩
  · rintro ⟨⟨stored, there, named⟩, declared⟩
    exact ⟨stored, there, named, declared⟩

theorem count_storedColumn_eq_one_iff (distinct : table.names.Nodup)
    (member : column ∈ blueprint.changed) :
    (Command.change.applied dialect blueprint table).columns.count (dialect.storedColumn column) =
        1 ↔ blueprint.Declares dialect table column := by
  have names := Command.names_change dialect blueprint table
  have apart : (Command.change.applied dialect blueprint table).columns.Nodup := by
    rw [← names] at distinct
    exact distinct.of_map _
  rw [← storedColumn_mem_iff member, ← List.count_pos_iff]
  have once := List.nodup_iff_count_le_one.mp apart (dialect.storedColumn column)
  omega

/-- Every change is declared just if each finds its column and agrees with the others of it. -/
theorem all_declared_iff :
    (∀ column ∈ blueprint.changed, blueprint.Declares dialect table column) ↔
      blueprint.Matches dialect table := by
  constructor
  · intro declared
    refine ⟨fun column member => (declared column member).1, ?_⟩
    intro column member other memberToo same
    have first := (declared column member).2
    have firstToo := (declared other memberToo).2
    rw [same] at first
    exact (storedColumn_eq_iff same).mp (Option.some.inj (first.symm.trans firstToo))
  · rintro ⟨found, agree⟩ column member
    refine ⟨found column member, ?_⟩
    obtain ⟨first, there, named, taken⟩ := exists_first member
    have same := agree first there column member named
    rw [taken, Option.map_some, (storedColumn_eq_iff named).mpr same]

theorem suppliesKey_iff :
    (∃ column ∈ blueprint.changed, column.counts ∧ dialect.storedColumn column ∈
        (Command.change.applied dialect blueprint table).columns) ↔
      blueprint.SuppliesKey dialect table :=
  exists_congr fun _ => and_congr_right fun member =>
    and_congr_right fun _ => storedColumn_mem_iff member

theorem keyed_change_iff :
    blueprint.Keyed dialect (Command.change.applied dialect blueprint table) ↔
      (table.key ≠ [] ∧ ¬ blueprint.counts) ∨ blueprint.SuppliesKey dialect table := by
  rw [Keyed, suppliesKey_iff]
  refine or_congr_left ?_
  by_cases counts : blueprint.counts <;> simp [Command.applied, counts]

/-- A table keeps its primary key unless a change counts, and none that counts is declared. -/
theorem keeps_key_iff :
    (table.key ≠ [] → blueprint.Keyed dialect (Command.change.applied dialect blueprint table)) ↔
      (table.key ≠ [] → blueprint.counts → blueprint.SuppliesKey dialect table) := by
  rw [keyed_change_iff]
  by_cases counts : blueprint.counts <;> by_cases key : table.key = [] <;> simp [counts, key]

theorem Matches.keeps_key (found : blueprint.Matches dialect table) :
    table.key ≠ [] → blueprint.Keyed dialect (Command.change.applied dialect blueprint table) := by
  refine keeps_key_iff.mpr fun _ counts => ?_
  obtain ⟨column, member, counting⟩ := counts_iff.mp counts
  exact ⟨column, member, counting, all_declared_iff.mpr found column member⟩

end Blueprint

namespace SchemaDialect

variable {dialect : SchemaDialect} {blueprint : Blueprint} {context : TableContext}

/-- The statement of a rebuild that makes the table anew. -/
theorem mem_rebuild (dialect : SchemaDialect) (blueprint : Blueprint) (context : TableContext)
    (definitions kept : List String) :
    "CREATE TABLE " ++ dialect.tableOf blueprint ++ " (" ++ ", ".intercalate definitions ++ ")" ∈
      dialect.rebuild blueprint definitions kept context := by
  unfold rebuild withoutForeignKeys
  split <;> simp

/-- A table that has columns is rebuilt whatever the changes are. Each of them is declared once, and
the table keeps its primary key, just if each finds its column and agrees with the others of it. -/
theorem change_applied_iff (sqlite : dialect.vendor = .sqlite) (blueprint : Blueprint)
    (filled : context.columns ≠ []) (distinct : (context.columns.map (·.name)).Nodup) :
    ∃ table : StoredTable,
      dialect.change blueprint context =
        .ok (dialect.rebuild blueprint (dialect.definitions table) table.names context) ∧
      (context.Told → (∀ column ∈ blueprint.changed, column.Settled) →
        ∃ text ∈ dialect.rebuild blueprint (dialect.definitions table) table.names context,
          Reading.alteration (dialect.tableOf blueprint).toList (dialect.copyOf blueprint).toList
            text.toList = some (.createTable table)) ∧
      ((∀ column ∈ blueprint.changed, table.columns.count (dialect.storedColumn column) = 1) ∧
          (context.stored.key ≠ [] → blueprint.Keyed dialect table) ↔
        blueprint.Matches dialect context.stored) ∧
      ((context.stored.key ≠ [] → blueprint.Keyed dialect table) ↔
        (context.stored.key ≠ [] → blueprint.counts →
          blueprint.SuppliesKey dialect context.stored)) := by
  have distinctStored : context.stored.names.Nodup := by
    rw [TableContext.names_stored]
    exact distinct
  refine ⟨_, change_eq sqlite blueprint filled, ?_, ?_, Blueprint.keeps_key_iff⟩
  · intro told settled
    have filledToo : (Command.change.applied dialect blueprint context.stored).columns ≠ [] := by
      simpa [Command.applied, TableContext.stored] using filled
    exact ⟨_, mem_rebuild dialect blueprint context _ _, reads_createTable sqlite blueprint filledToo
      (Command.plain_change told) (Command.sound_change told).2
      (Command.legible_change sqlite told settled)⟩
  · have once : (∀ column ∈ blueprint.changed,
        (Command.change.applied dialect blueprint context.stored).columns.count
          (dialect.storedColumn column) = 1) ↔ blueprint.Matches dialect context.stored := by
      rw [← Blueprint.all_declared_iff]
      exact forall₂_congr fun column member =>
        Blueprint.count_storedColumn_eq_one_iff distinctStored member
    rw [once]
    exact and_iff_left_of_imp Blueprint.Matches.keeps_key

end SchemaDialect

theorem changed_votes_applied :
    sqliteDialect.vendor = .sqlite ∧ usersTold.columns ≠ [] ∧
      (usersTold.columns.map (·.name)).Nodup ∧
      ∃ table : StoredTable,
        sqliteDialect.change changedVotes usersTold = .ok (sqliteDialect.rebuild changedVotes
          (sqliteDialect.definitions table) table.names usersTold) ∧
        (∃ text ∈ sqliteDialect.rebuild changedVotes (sqliteDialect.definitions table) table.names
            usersTold,
          Reading.alteration (sqliteDialect.tableOf changedVotes).toList
            (sqliteDialect.copyOf changedVotes).toList text.toList = some (.createTable table)) ∧
        table.columns.count (sqliteDialect.storedColumn optionalVotes) = 1 ∧
        changedVotes.Keyed sqliteDialect table := by
  have filled : usersTold.columns ≠ [] := by decide
  have distinct : (usersTold.columns.map (·.name)).Nodup := by decide
  have sqlite : sqliteDialect.vendor = .sqlite := rfl
  obtain ⟨table, written, read, applied, -⟩ :=
    SchemaDialect.change_applied_iff sqlite changedVotes filled distinct
  have found : changedVotes.Matches sqliteDialect usersTold.stored :=
    ⟨by decide +kernel, by decide +kernel⟩
  have settled : ∀ column ∈ changedVotes.changed, column.Settled :=
    fun column member => clear_changedVotes.settled column (List.mem_filter.mp member).1
  obtain ⟨once, keyed⟩ := applied.mpr found
  exact ⟨sqlite, filled, distinct, table, written, read usersTold_told settled,
    once optionalVotes (by decide +kernel), keyed (by decide +kernel)⟩

/-- A key that counts up, under a name that the table has in small letters. -/
def countingID : Blueprint :=
  { table := "users", columns := [{ Column.counter .integer "ID" with changes := true }] }

/-- A change that finds no column is passed over, and takes the primary key from the table. -/
theorem unmatched_change_takes_key :
    usersTold.stored.key = ["id"] ∧
      sqliteDialect.columnDefinitions countingID.changed =
        ["\"ID\" INTEGER NOT NULL PRIMARY KEY AUTOINCREMENT"] ∧
      sqliteDialect.change countingID usersTold = .ok [
        "CREATE TEMPORARY TABLE \"__temp__users\" AS SELECT \"id\", \"votes\" FROM \"users\"",
        "DROP TABLE \"users\"",
        "CREATE TABLE \"users\" (\"id\" INTEGER NOT NULL, \"votes\" INTEGER)",
        "INSERT INTO \"users\" (\"id\", \"votes\") SELECT \"id\", \"votes\" FROM \"__temp__users\"",
        "DROP TABLE \"__temp__users\""] := by
  decide +kernel

end SqlToolkit
