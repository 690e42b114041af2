import Mathlib.Data.Finset.Sort
import Mathlib.Data.String.Basic
import SqlToolkit.Proofs.Changes.Basic
import SqlToolkit.Proofs.Inserts.Trees
import SqlToolkit.Query.Change
/-!
The tree of the statement that inserts records. Its columns are those of every record in ascending
order, and it has one row for each record, unless there are no columns.
-/

namespace SqlToolkit

/-! Records in the order of their columns -/

namespace Record

variable {record other : Record}

theorem sorted_perm (record : Record) : record.sorted.entries.Perm record.entries :=
  List.mergeSort_perm _ _

theorem columns_sorted_perm (record : Record) : record.sorted.columns.Perm record.columns :=
  record.sorted_perm.map _

theorem ascending_columns (record : Record) : record.sorted.columns.Pairwise (· ≤ ·) := by
  have columns : record.sorted.columns = record.columns.mergeSort (· ≤ ·) :=
    List.map_mergeSort fun _ _ _ _ => rfl
  rw [columns]
  exact List.pairwise_mergeSort' (· ≤ ·) _

theorem columns_sorted (distinct : record.columns.Nodup) :
    record.sorted.columns = record.columns.toFinset.sort (· ≤ ·) := by
  have perm := record.columns_sorted_perm
  rw [← List.toFinset_eq_of_perm _ _ perm]
  exact ((List.toFinset_sort _ (perm.nodup_iff.mpr distinct)).mpr record.ascending_columns).symm

theorem cell_inj (distinct : record.columns.Nodup) {one two : String × Operand}
    (first : one ∈ record.entries) (second : two ∈ record.entries) (same : one.1 = two.1) :
    one = two :=
  List.inj_on_of_nodup_map distinct first second same

/-- The order in which a record lists its columns does not matter. -/
theorem sorted_eq_of_perm (distinct : record.columns.Nodup)
    (perm : record.entries.Perm other.entries) : record.sorted = other.sorted := by
  have entries : record.sorted.entries = other.sorted.entries := by
    refine List.Perm.eq_of_pairwise ?_ (List.pairwise_map.mp record.ascending_columns)
      (List.pairwise_map.mp other.ascending_columns)
      ((record.sorted_perm.trans perm).trans other.sorted_perm.symm)
    intro one two first second le ge
    exact cell_inj distinct (record.sorted_perm.mem_iff.mp first)
      (perm.mem_iff.mpr (other.sorted_perm.mem_iff.mp second)) (String.le_antisymm le ge)
  rw [← Record.mk.injEq] at entries
  exact entries

theorem get?_of_mem (distinct : record.columns.Nodup) {cell : String × Operand}
    (member : cell ∈ record.entries) : record.get? cell.1 = some cell.2 := by
  obtain ⟨before, behind, same⟩ := List.append_of_mem member
  refine List.lookup_eq_some_iff.mpr ⟨before, behind, same, fun other listed => ?_⟩
  rw [columns, same, List.map_append, List.nodup_append] at distinct
  exact bne_iff_ne.mpr
    (distinct.2.2 other.1 (List.mem_map_of_mem listed) cell.1 List.mem_cons_self).symm

end Record

theorem sharedColumns_unequal {records : List Record} {one other : Record} (first : one ∈ records)
    (second : other ∈ records) (unequal : one.columns ≠ other.columns) :
    sharedColumns records = .error .unequalColumns := by
  cases shared : sharedColumns records with
  | ok columns =>
      have same := (sharedColumns_eq_ok_iff.mp shared).2
      exact absurd ((same one first).trans (same other second).symm) unequal
  | error fault =>
      cases records with
      | nil => simp at first
      | cons record rest =>
          rw [sharedColumns] at shared
          split_ifs at shared
          cases shared
          rfl

/-! The tree of records -/

namespace InsertTree

variable {dialect : Dialect} {table : Identifier} {columns : List String} {records : List Record}

/-- SQLite takes the rows of several records as a union of selects. -/
def ofRecords (dialect : Dialect) (table : Identifier) (columns : List String)
    (records : List Record) : InsertTree where
  table
  columns
  source :=
    if columns = [] then .defaults
    else if dialect.vendor = .sqlite ∧ records.length ≠ 1 then
      .selects (records.map Record.entries)
    else .values (records.map Record.operands)

theorem operands_ofRecords (filled : columns ≠ []) :
    (ofRecords dialect table columns records).source.operands = records.map Record.operands := by
  simp only [ofRecords, if_neg filled]
  split_ifs
  · simp [InsertSource.operands, Record.operands]
  · rfl

theorem aligned_ofRecords (shared : sharedColumns records = .ok columns) :
    (ofRecords dialect table columns records).Aligned := by
  have same := (sharedColumns_eq_ok_iff.mp shared).2
  unfold ofRecords Aligned
  by_cases empty : columns = []
  · simp [empty]
  · simp only [if_neg empty]
    split_ifs with selects
    · intro row member
      obtain ⟨record, listed, rfl⟩ := List.mem_map.mp member
      exact same record listed
    · intro row member
      obtain ⟨record, listed, rfl⟩ := List.mem_map.mp member
      rw [← same record listed, Record.operands, Record.columns, List.length_map, List.length_map]

theorem rows_ofRecords (shared : sharedColumns records = .ok columns) (filled : columns ≠ []) :
    (ofRecords dialect table columns records).rows = records.map Record.entries := by
  have same := (sharedColumns_eq_ok_iff.mp shared).2
  rw [rows, operands_ofRecords filled, List.map_map]
  refine List.map_congr_left fun record member => ?_
  change columns.zip record.operands = record.entries
  rw [← same record member, Record.operands, Record.columns, List.zip_map', List.map_id']

theorem length_rows_ofRecords (shared : sharedColumns records = .ok columns) :
    (ofRecords dialect table columns records).rows.length =
      if columns = [] then 1 else records.length := by
  split_ifs with empty
  · simp [rows, ofRecords, empty, InsertSource.operands]
  · rw [rows_ofRecords shared empty, List.length_map]

theorem bindings_ofRecords (shared : sharedColumns records = .ok columns) :
    ((ofRecords dialect table columns records).statement dialect).bindings =
      records.flatMap Record.bindings := by
  rw [statement, values_written]
  by_cases empty : columns = []
  · have none : records.flatMap Record.bindings = [] := by
      rw [List.flatMap_eq_nil_iff]
      intro record member
      have columns := (sharedColumns_eq_ok_iff.mp shared).2 record member
      rw [empty, Record.columns, List.map_eq_nil_iff] at columns
      rw [Record.bindings, Record.operands, columns]
      rfl
    rw [none]
    simp [ofRecords, empty, InsertSource.operands]
  · rw [operands_ofRecords empty, List.flatMap_map]
    rfl

theorem rendered_tuple (record : Record) :
    (InsertSource.tuple record.operands).rendered dialect.marker = dialect.valuesTuple record := by
  rw [InsertSource.tuple, Filled.enclosed, Filled.rendered_append, Filled.rendered_append,
    Filled.rendered_join_map Filled.rendered_operand, Filled.rendered_ofText,
    Filled.rendered_ofText]
  rfl

theorem rendered_select (record : Record) :
    (InsertSource.select dialect record.entries).rendered dialect.marker =
      dialect.valuesSelect record := by
  have cell : ∀ cell : String × Operand,
      (Filled.operand cell.2 ++ Filled.ofText (" AS " ++ dialect.quoted cell.1) : Filled).rendered
          dialect.marker = dialect.parameter cell.2 ++ " AS " ++ dialect.quoted cell.1 := by
    intro cell
    rw [Filled.rendered_append, Filled.rendered_operand, Filled.rendered_ofText,
      String.append_assoc]
  rw [InsertSource.select, Filled.rendered_append, Filled.rendered_ofText,
    Filled.rendered_join_map cell]
  rfl

theorem rendered_ofRecords (filled : columns ≠ []) :
    ((ofRecords dialect table columns records).source.written dialect).rendered dialect.marker =
      dialect.insertRows records := by
  simp only [ofRecords, if_neg filled, Dialect.insertRows]
  split_ifs
  · rw [InsertSource.written, List.map_map]
    exact Filled.rendered_join_map rendered_select _ _
  · rw [InsertSource.written, List.map_map, Filled.rendered_append, Filled.rendered_ofText]
    exact congrArg ("VALUES " ++ ·) (Filled.rendered_join_map rendered_tuple _ _)

theorem insertDefaults_eq (text : String) :
    dialect.insertDefaults text =
      "INSERT INTO " ++ text ++ " " ++ InsertSource.defaultRow dialect := by
  have mysql : " () VALUES ()" = " " ++ "() VALUES ()" := by decide
  have others : " DEFAULT VALUES" = " " ++ "DEFAULT VALUES" := by decide
  unfold Dialect.insertDefaults InsertSource.defaultRow
  cases dialect.vendor <;> simp only [mysql, others, String.append_assoc]

theorem sql_statement (tree : InsertTree) :
    (tree.statement dialect).sql =
      "INSERT INTO " ++ dialect.tableRef tree.table ++ " " ++
        (if tree.columns = [] then "" else "(" ++ dialect.columns tree.columns ++ ") ") ++
        (tree.source.written dialect).rendered dialect.marker := by
  rw [statement, written, Filled.rendered_append, Filled.rendered_append, Filled.rendered_ofText]
  split_ifs
  · rw [Filled.rendered_nil]
  · rw [Filled.rendered_ofText]

theorem sql_ofRecords {query : Query} (named : query.table = some table)
    (shared : sharedColumns records = .ok columns) :
    dialect.insert query records =
      .ok ((ofRecords dialect table columns records).statement dialect).sql := by
  rw [Dialect.insert_eq named shared, sql_statement]
  by_cases empty : columns = []
  · have source : (ofRecords dialect table columns records).source = .defaults := if_pos empty
    rw [Dialect.insertInto, if_pos empty, insertDefaults_eq, source, InsertSource.written,
      Filled.rendered_ofText, show (ofRecords dialect table columns records).columns = [] from empty,
      if_pos rfl, String.append_empty]
    rfl
  · have opening : " (" = " " ++ "(" := by decide
    rw [Dialect.insertInto, if_neg empty, rendered_ofRecords empty, opening,
      show (ofRecords dialect table columns records).columns = columns from rfl, if_neg empty]
    simp only [String.append_assoc]
    rfl

end InsertTree

/-! What a builder sends -/

namespace Builder

variable {builder : Builder} {table : Identifier} {columns : List String} {records : List Record}

/-- The tree of records that share their columns, which are put in ascending order. -/
def insertTree (builder : Builder) (table : Identifier) (columns : List String)
    (records : List Record) : InsertTree :=
  .ofRecords builder.dialect table columns (records.map Record.sorted)

theorem insertMany_eq (accepted : builder.fault = none)
    (named : builder.query.table = some table) (given : records ≠ [])
    (shared : sharedColumns (records.map Record.sorted) = .ok columns) :
    builder.insertMany records =
      .send (.execute ((builder.insertTree table columns records).statement builder.dialect))
        fun _ => .result () := by
  have bindings := @InsertTree.bindings_ofRecords builder.dialect table _ _ shared
  rw [insertMany, sound, accepted]
  simp only [given, if_false, InsertTree.sql_ofRecords named shared, ← bindings]
  rfl

theorem insertMany_refused {fault : Fault} (accepted : builder.fault = none)
    (named : builder.query.table = some table) (given : records ≠ [])
    (shared : sharedColumns (records.map Record.sorted) = .error fault) :
    builder.insertMany records = .failure (.invalidArgument fault) := by
  rw [insertMany, sound, accepted]
  simp only [given, if_false, Dialect.insert, Dialect.targetTable, named, shared]
  rfl

theorem of_insertMany {request : Request} {next : request.Answer → Program Unit}
    (given : records ≠ []) (sent : builder.insertMany records = .send request next) :
    ∃ table columns, builder.query.table = some table ∧
      sharedColumns (records.map Record.sorted) = .ok columns ∧
      request = .execute ((builder.insertTree table columns records).statement builder.dialect) := by
  cases accepted : builder.fault with
  | some fault =>
      rw [insertMany, sound, accepted] at sent
      cases sent
  | none =>
      cases named : builder.query.table with
      | none =>
          rw [insertMany, sound, accepted] at sent
          simp only [given, if_false, Dialect.insert, Dialect.targetTable, named] at sent
          cases sent
      | some table =>
          cases shared : sharedColumns (records.map Record.sorted) with
          | error fault =>
              rw [insertMany_refused accepted named given shared] at sent
              cases sent
          | ok columns =>
              rw [insertMany_eq accepted named given shared] at sent
              cases sent
              exact ⟨table, columns, rfl, rfl, rfl⟩

end Builder

end SqlToolkit
