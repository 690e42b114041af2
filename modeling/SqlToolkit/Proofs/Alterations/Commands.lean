import SqlToolkit.Proofs.Alterations.Statements
/-!
Executing the statements of single commands. Adding and renaming columns alters the table as it is;
a rebuild makes it anew from what was told of it before.
-/

namespace SqlToolkit

open Reading

namespace SchemaDialect

variable {dialect : SchemaDialect}

/-! The names of tables -/

/-- The temporary copy of a table that is rebuilt. -/
def copyOf (dialect : SchemaDialect) (blueprint : Blueprint) : String :=
  dialect.quoted ("__temp__" ++ dialect.tablePrefix ++ blueprint.table)

theorem splitSchema_unqualified {name table : String} (split : splitSchema name = (none, table)) :
    table = name := by
  simp only [splitSchema] at split
  split at split
  · exact (Prod.mk.inj split).2.symm
  · cases (Prod.mk.inj split).1

theorem tablePath_starts (dialect : Dialect) (name : String) :
    ∃ first rest, dialect.tablePath name = dialect.quoted first ++ rest ∧ Behind rest.toList ∧
      (rest = "" → first = dialect.tablePrefix ++ name) := by
  unfold Dialect.tablePath
  split
  · refine ⟨_, _, String.append_assoc, ?_, ?_⟩
    · rw [String.toList_append]
      exact Behind.append (by decide) (by decide) _
    · intro empty
      have characters := congrArg String.toList empty
      simp at characters
  · rename_i table unqualified
    obtain rfl := splitSchema_unqualified unqualified
    exact ⟨_, "", String.append_empty.symm, by decide, fun _ => rfl⟩

/-- A table name starts with a name in quotes, and ends there only if it is not qualified. -/
theorem table_starts (dialect : Dialect) (name : String) :
    ∃ first rest, dialect.table name = dialect.quoted first ++ rest ∧ Behind rest.toList ∧
      (rest = "" → first = dialect.tablePrefix ++ name) := by
  unfold Dialect.table
  cases splitAlias name with
  | none => exact tablePath_starts dialect name
  | some split =>
      obtain ⟨first, rest, starts, behind, -⟩ := tablePath_starts dialect split.1
      refine ⟨first, rest ++ (" AS " ++ dialect.quoted (dialect.tablePrefix ++ split.2)), ?_, ?_, ?_⟩
      · simp only [starts, String.append_assoc]
      · rw [String.toList_append, String.toList_append]
        exact behind.join (Behind.append (by decide) (by decide) _)
      · intro empty
        have characters := congrArg String.toList empty
        simp at characters

theorem copyOf_ne_tableOf (sqlite : dialect.vendor = .sqlite) (blueprint : Blueprint) :
    (dialect.copyOf blueprint).toList ≠ (dialect.tableOf blueprint).toList := by
  have longer : ("__temp__" ++ dialect.tablePrefix ++ blueprint.table).length =
      8 + (dialect.tablePrefix ++ blueprint.table).length := by
    have eight : "__temp__".length = 8 := rfl
    rw [String.append_assoc, String.length_append, eight]
  have unstarred : "__temp__" ++ dialect.tablePrefix ++ blueprint.table ≠ "*" := by
    intro same
    have one : "*".length = 1 := rfl
    rw [same, one] at longer
    omega
  obtain ⟨first, rest, starts, behind, unqualified⟩ :=
    table_starts dialect.toDialect blueprint.table
  rw [copyOf, Dialect.quoted_written sqlite unstarred, tableOf, starts, String.toList_append]
  intro same
  by_cases star : first = "*"
  · rw [star] at same
    simp [Dialect.quoted, written] at same
  rw [Dialect.quoted_written sqlite star] at same
  have read := name_written behind first
  have nothingBehind : Behind [] := by decide
  have whole := name_written nothingBehind ("__temp__" ++ dialect.tablePrefix ++ blueprint.table)
  rw [List.append_nil, same, read] at whole
  obtain ⟨named, nothing⟩ := Prod.mk.inj (Option.some.inj whole)
  have unqualified := unqualified (by simpa using nothing)
  rw [← named, unqualified] at longer
  omega

end SchemaDialect

namespace Storage

variable {target copy : String} {storage next : Storage}

theorem execute_cons {text : String} {rest : List String} {read : Alteration}
    (reads : alteration target.toList copy.toList text.toList = some read)
    (performs : storage.perform read = some next) :
    storage.execute target copy (text :: rest) = next.execute target copy rest := by
  rw [execute, List.foldlM_cons, reads, Option.bind_some, performs]
  rfl

/-- A statement that cannot be read, or that fails, is the last. -/
theorem execute_stops {text : String} {rest : List String}
    (stops : (alteration target.toList copy.toList text.toList).bind storage.perform = none) :
    storage.execute target copy (text :: rest) = none := by
  rw [execute, List.foldlM_cons, stops]
  rfl

theorem execute_append (first second : List String) :
    storage.execute target copy (first ++ second) =
      (storage.execute target copy first).bind (·.execute target copy second) :=
  List.foldlM_append

theorem execute_setting {text : String} {rest : List String}
    (setting : text = "PRAGMA foreign_keys = OFF" ∨ text = "PRAGMA foreign_keys = ON") :
    storage.execute target copy (text :: rest) = storage.execute target copy rest := by
  have reads : alteration target.toList copy.toList text.toList = some .setting := by
    rcases setting with rfl | rfl <;> rfl
  exact execute_cons reads rfl

theorem execute_withoutForeignKeys (context : TableContext) (statements : List String) :
    storage.execute target copy (SchemaDialect.withoutForeignKeys context statements) =
      storage.execute target copy statements := by
  unfold SchemaDialect.withoutForeignKeys
  split
  · rw [List.append_assoc, List.singleton_append, execute_setting (.inl rfl), execute_append]
    have last (storage : Storage) :
        storage.execute target copy ["PRAGMA foreign_keys = ON"] = some storage :=
      execute_setting (.inr rfl)
    cases storage.execute target copy statements with
    | none => rfl
    | some after => exact last after
  · rfl

end Storage

namespace SchemaDialect

variable {dialect : SchemaDialect} (sqlite : dialect.vendor = .sqlite) (blueprint : Blueprint)

def execute (dialect : SchemaDialect) (blueprint : Blueprint) (storage : Storage)
    (statements : List String) : Option Storage :=
  storage.execute (dialect.tableOf blueprint) (dialect.copyOf blueprint) statements

theorem columnDefinition_eq (dialect : SchemaDialect) (column : Column) :
    dialect.columnDefinition column = dialect.column column.name ++ dialect.declaration column := by
  simp only [columnDefinition, declaration, String.append_assoc]

theorem existingDefinition_eq (dialect : SchemaDialect) (info : ColumnInfo) :
    dialect.existingDefinition info = dialect.column info.name ++ info.declaration := by
  simp only [existingDefinition, ColumnInfo.declaration, String.append_assoc]

theorem reads_dropTable (dialect : SchemaDialect) (blueprint : Blueprint) :
    alteration (dialect.tableOf blueprint).toList (dialect.copyOf blueprint).toList
      ("DROP TABLE " ++ dialect.tableOf blueprint).toList = some .dropTable := by
  rw [String.toList_append]
  exact alteration_dropTable

include sqlite

theorem reads_addColumn {column : Column} (plain : Plain column.name) (settled : column.Settled) :
    alteration (dialect.tableOf blueprint).toList (dialect.copyOf blueprint).toList
      (dialect.alterTable blueprint ("ADD COLUMN " ++ dialect.columnDefinition column)).toList =
        some (.addColumn (dialect.storedColumn column)) := by
  simp only [alterTable, columnDefinition_eq, String.toList_append, List.append_assoc,
    Dialect.column_written sqlite plain]
  exact alteration_addColumn (legible_declaration sqlite settled)

theorem reads_renameColumn {column name : String} (plain : Plain column) (plainToo : Plain name) :
    alteration (dialect.tableOf blueprint).toList (dialect.copyOf blueprint).toList
      (dialect.alterTable blueprint
        ("RENAME COLUMN " ++ dialect.column column ++ " TO " ++ dialect.column name)).toList =
        some (.renameColumn column name) := by
  simp only [alterTable, String.toList_append, List.append_assoc,
    Dialect.column_written sqlite plain, Dialect.column_written sqlite plainToo]
  exact alteration_renameColumn column name

/-- New columns are added one after the other. -/
theorem execute_adding (columns : List Column) {stored : StoredTable}
    (plain : ∀ column ∈ columns, Plain column.name) (settled : ∀ column ∈ columns, column.Settled)
    (distinct : (columns.map (·.name)).Nodup)
    (fresh : ∀ column ∈ columns, column.name ∉ stored.names) :
    dialect.execute blueprint (.holding stored) (columns.map fun column =>
        dialect.alterTable blueprint ("ADD COLUMN " ++ dialect.columnDefinition column)) =
      some (.holding (stored.append (columns.map dialect.storedColumn))) := by
  induction columns generalizing stored with
  | nil =>
      rw [List.map_nil, List.map_nil, StoredTable.append, List.append_nil]
      rfl
  | cons column columns ih =>
      obtain ⟨apart, distinct⟩ := List.nodup_cons.mp distinct
      have reads := reads_addColumn sqlite blueprint (plain column List.mem_cons_self)
        (settled column List.mem_cons_self)
      have performs : (Storage.holding stored).perform (.addColumn (dialect.storedColumn column)) =
          some (.holding (stored.append [dialect.storedColumn column])) :=
        if_neg (fresh column List.mem_cons_self)
      have freshToo : ∀ other ∈ columns,
          other.name ∉ (stored.append [dialect.storedColumn column]).names := by
        intro other member there
        have names : (stored.append [dialect.storedColumn column]).names =
            stored.names ++ [column.name] := by
          simp [StoredTable.names, StoredTable.append, storedColumn]
        rw [names] at there
        rcases List.mem_append.mp there with old | new
        · exact fresh other (List.mem_cons_of_mem column member) old
        · exact apart (List.mem_map.mpr ⟨other, member, List.mem_singleton.mp new⟩)
      have rest := ih (fun other member => plain other (List.mem_cons_of_mem column member))
        (fun other member => settled other (List.mem_cons_of_mem column member)) distinct freshToo
      rw [List.map_cons, execute, Storage.execute_cons reads performs]
      simpa [StoredTable.append, execute] using rest

theorem execute_renaming (context : TableContext) {stored : StoredTable} {column name : String}
    (plain : Plain column) (plainToo : Plain name) (there : column ∈ stored.names)
    (fresh : name ∉ stored.names) :
    dialect.execute blueprint (.holding stored) (dialect.renameColumn blueprint column name context) =
      some (.holding (stored.rename column name)) := by
  have statements : dialect.renameColumn blueprint column name context =
      withoutForeignKeys context [dialect.alterTable blueprint
        ("RENAME COLUMN " ++ dialect.column column ++ " TO " ++ dialect.column name)] := by
    unfold renameColumn
    rw [sqlite]
  have performs : (Storage.holding stored).perform (.renameColumn column name) =
      some (.holding (stored.rename column name)) :=
    if_pos ⟨there, fresh⟩
  rw [statements, execute, Storage.execute_withoutForeignKeys,
    Storage.execute_cons (reads_renameColumn sqlite blueprint plain plainToo) performs]
  rfl

/-! Rebuilding -/

def definitions (dialect : SchemaDialect) (stored : StoredTable) : List String :=
  (stored.columns.map fun column => dialect.column column.name ++ column.declaration) ++
    if stored.key = [] then [] else ["PRIMARY KEY (" ++ dialect.columns stored.key ++ ")"]

theorem definitions_toList {stored : StoredTable} (plain : ∀ name ∈ stored.names, Plain name)
    (keyed : ∀ name ∈ stored.key, name ∈ stored.names) :
    (dialect.definitions stored).map String.toList =
      stored.columns.map spelled ++ spelledKey stored.key := by
  have columns : (stored.columns.map fun column =>
      dialect.column column.name ++ column.declaration).map String.toList =
        stored.columns.map spelled := by
    rw [List.map_map]
    refine List.map_congr_left fun column member => ?_
    have named : column.name ∈ stored.names := List.mem_map_of_mem member
    simp only [Function.comp_apply, String.toList_append,
      Dialect.column_written sqlite (plain column.name named)]
    rfl
  have plainKey : ∀ name ∈ stored.key, Plain name := fun name member => plain name (keyed name member)
  rw [definitions, List.map_append, columns, spelledKey]
  split
  · rfl
  · simp only [List.map_cons, List.map_nil, String.toList_append,
      Dialect.columns_written sqlite plainKey, List.append_assoc]
    rfl

theorem reads_copyAway {columns : List String} (plain : ∀ name ∈ columns, Plain name)
    (filled : columns ≠ []) :
    alteration (dialect.tableOf blueprint).toList (dialect.copyOf blueprint).toList
      ("CREATE TEMPORARY TABLE " ++ dialect.copyOf blueprint ++ " AS SELECT " ++
        dialect.columns columns ++ " FROM " ++ dialect.tableOf blueprint).toList =
        some (.copyAway columns) := by
  simp only [String.toList_append, List.append_assoc, Dialect.columns_written sqlite plain]
  exact alteration_copyAway filled

theorem reads_createTable {stored : StoredTable} (filled : stored.columns ≠ [])
    (plain : ∀ name ∈ stored.names, Plain name) (keyed : ∀ name ∈ stored.key, name ∈ stored.names)
    (legible : ∀ column ∈ stored.columns, Legible column.declaration) :
    alteration (dialect.tableOf blueprint).toList (dialect.copyOf blueprint).toList
      ("CREATE TABLE " ++ dialect.tableOf blueprint ++ " (" ++
        ", ".intercalate (dialect.definitions stored) ++ ")").toList =
        some (.createTable stored) := by
  have declared : (", ".intercalate (dialect.definitions stored)).toList =
      [',', ' '].intercalate (stored.columns.map spelled ++ spelledKey stored.key) := by
    rw [String.toList_intercalate, definitions_toList sqlite plain keyed]
    rfl
  simp only [String.toList_append, List.append_assoc, declared]
  exact alteration_createTable filled legible

theorem reads_copyBack {columns : List String} (plain : ∀ name ∈ columns, Plain name)
    (filled : columns ≠ []) :
    alteration (dialect.tableOf blueprint).toList (dialect.copyOf blueprint).toList
      ("INSERT INTO " ++ dialect.tableOf blueprint ++ " (" ++ dialect.columns columns ++
        ") SELECT " ++ dialect.columns columns ++ " FROM " ++ dialect.copyOf blueprint).toList =
        some (.copyBack columns columns) := by
  simp only [String.toList_append, List.append_assoc, Dialect.columns_written sqlite plain]
  exact alteration_copyBack filled

theorem reads_dropCopy :
    alteration (dialect.tableOf blueprint).toList (dialect.copyOf blueprint).toList
      ("DROP TABLE " ++ dialect.copyOf blueprint).toList = some .dropCopy := by
  rw [String.toList_append]
  exact alteration_dropCopy (copyOf_ne_tableOf sqlite blueprint)

/-- A rebuild makes the table as it is declared, if it finds each of the columns there. -/
theorem execute_rebuild (context : TableContext) {stored rebuilt : StoredTable}
    (sound : rebuilt.names.Nodup ∧ ∀ name ∈ rebuilt.key, name ∈ rebuilt.names)
    (plain : ∀ name ∈ rebuilt.names, Plain name)
    (legible : ∀ column ∈ rebuilt.columns, Legible column.declaration) :
    dialect.execute blueprint (.holding stored)
        (dialect.rebuild blueprint (dialect.definitions rebuilt) rebuilt.names context) =
      if rebuilt.columns ≠ [] ∧ ∀ name ∈ rebuilt.names, name ∈ stored.names then
        some (.holding rebuilt)
      else none := by
  rw [execute, rebuild, Storage.execute_withoutForeignKeys, ← copyOf]
  by_cases empty : rebuilt.columns = []
  · have nothing : rebuilt.names = [] := by rw [StoredTable.names, empty, List.map_nil]
    rw [if_neg (by simp [empty])]
    have none : (dialect.columns []).toList = list [] := rfl
    refine Storage.execute_stops ?_
    simp only [String.toList_append, List.append_assoc, nothing, none]
    rw [alteration_copyAway_nil]
    rfl
  have filled : rebuilt.names ≠ [] := by simpa [StoredTable.names] using empty
  have copies := reads_copyAway sqlite blueprint plain filled
  by_cases there : ∀ name ∈ rebuilt.names, name ∈ stored.names
  · have drops := reads_dropTable dialect blueprint
    have creates := reads_createTable sqlite blueprint empty plain sound.2 legible
    have copiesBack := reads_copyBack sqlite blueprint plain filled
    have dropsCopy := reads_dropCopy sqlite blueprint
    have copied : (Storage.holding stored).perform (.copyAway rebuilt.names) =
        some ⟨some stored, some rebuilt.names⟩ := if_pos ⟨rfl, there⟩
    have dropped : (Storage.mk (some stored) (some rebuilt.names)).perform .dropTable =
        some ⟨none, some rebuilt.names⟩ := rfl
    have created : (Storage.mk none (some rebuilt.names)).perform (.createTable rebuilt) =
        some ⟨some rebuilt, some rebuilt.names⟩ := if_pos ⟨rfl, empty, sound.1, sound.2⟩
    have copiedBack : (Storage.mk (some rebuilt) (some rebuilt.names)).perform
        (.copyBack rebuilt.names rebuilt.names) = some ⟨some rebuilt, some rebuilt.names⟩ :=
      if_pos ⟨rfl, fun _ member => member, fun _ member => member⟩
    have droppedCopy : (Storage.mk (some rebuilt) (some rebuilt.names)).perform .dropCopy =
        some (.holding rebuilt) := rfl
    rw [if_pos ⟨empty, there⟩, Storage.execute_cons copies copied,
      Storage.execute_cons drops dropped, Storage.execute_cons creates created,
      Storage.execute_cons copiesBack copiedBack, Storage.execute_cons dropsCopy droppedCopy]
    rfl
  · rw [if_neg fun both => there both.2]
    refine Storage.execute_stops ?_
    rw [copies]
    exact if_neg fun both => there both.2

end SchemaDialect

end SqlToolkit
