import SqlToolkit.Proofs.Inserts.Records
/-!
The rows of an insert beside its records. Records over the same columns have a row each, whatever
the order in which they list their columns; records without columns have one row together.
-/

namespace SqlToolkit

variable {builder : Builder} {table : Identifier} {columns : List String} {records : List Record}

/-! Records over the same columns -/

theorem sharedColumns_sorted {names : Finset String} (given : records ≠ [])
    (listed : ∀ record ∈ records, record.columns.Nodup ∧ record.columns.toFinset = names) :
    sharedColumns (records.map Record.sorted) = .ok (names.sort (· ≤ ·)) := by
  rw [sharedColumns_eq_ok_iff]
  refine ⟨by simpa using given, fun record member => ?_⟩
  obtain ⟨original, inside, rfl⟩ := List.mem_map.mp member
  obtain ⟨distinct, same⟩ := listed original inside
  rw [Record.columns_sorted distinct, same]

theorem map_sorted_eq {permuted : List Record}
    (distinct : ∀ record ∈ records, record.columns.Nodup)
    (perm : List.Forall₂ (fun one other => one.entries.Perm other.entries) records permuted) :
    records.map Record.sorted = permuted.map Record.sorted := by
  induction perm with
  | nil => rfl
  | cons same others ih =>
      rw [List.map_cons, List.map_cons, Record.sorted_eq_of_perm (distinct _ List.mem_cons_self) same,
        ih fun record member => distinct record (List.mem_cons_of_mem _ member)]

/-- The order of the columns within the records is lost before anything is sent. -/
theorem insertMany_congr {others : List Record}
    (same : records.map Record.sorted = others.map Record.sorted) :
    builder.insertMany records = builder.insertMany others := by
  have given : records = [] ↔ others = [] := by
    rw [← List.map_eq_nil_iff (f := Record.sorted), same, List.map_eq_nil_iff]
  rw [Builder.insertMany, Builder.insertMany, same]
  simp only [given]

theorem rows_insertTree (distinct : ∀ record ∈ records, record.columns.Nodup)
    (shared : sharedColumns (records.map Record.sorted) = .ok columns) (filled : columns ≠ []) :
    List.Forall₂ (fun row record => row.map Prod.fst = columns ∧
      ∀ cell ∈ row, record.get? cell.1 = some cell.2)
      (builder.insertTree table columns records).rows records := by
  have same := (sharedColumns_eq_ok_iff.mp shared).2
  rw [Builder.insertTree, InsertTree.rows_ofRecords shared filled, List.map_map,
    List.forall₂_map_left_iff, List.forall₂_same]
  intro record member
  refine ⟨same _ (List.mem_map_of_mem member), fun cell listed => ?_⟩
  exact Record.get?_of_mem (distinct record member) (record.sorted_perm.mem_iff.mp listed)

theorem operands_insertTree {row : List Operand} {operand : Operand} (filled : columns ≠ [])
    (member : row ∈ (builder.insertTree table columns records).source.operands)
    (listed : operand ∈ row) : ∃ record ∈ records, operand ∈ record.operands := by
  rw [Builder.insertTree, InsertTree.operands_ofRecords filled, List.map_map] at member
  obtain ⟨record, given, rfl⟩ := List.mem_map.mp member
  exact ⟨record, given, (record.sorted_perm.map Prod.snd).mem_iff.mp listed⟩

theorem source_insertTree (filled : columns ≠ []) :
    (∃ rows, (builder.insertTree table columns records).source = .values rows) ∨
      builder.dialect.vendor = .sqlite ∧
        ∃ rows, (builder.insertTree table columns records).source = .selects rows := by
  simp only [Builder.insertTree, InsertTree.ofRecords, if_neg filled]
  split_ifs with selects
  · exact .inr ⟨selects.1, _, rfl⟩
  · exact .inl ⟨_, rfl⟩

/-- Records over the same columns, of which there is at least one, are sent as one statement. Its
columns ascend, and each of its rows holds the operands of one record under these columns. Records
over other columns are refused, and the order within a record makes no difference. -/
theorem inserted_rows_line_up (accepted : builder.fault = none)
    (named : builder.query.table = some table) :
    (∀ (columns : Finset String) (records : List Record), columns.Nonempty → records ≠ [] →
      (∀ record ∈ records, record.columns.Nodup ∧ record.columns.toFinset = columns) →
      ∃ tree : InsertTree,
        builder.insertMany records =
            .send (.execute (tree.statement builder.dialect)) (fun _ => .result ()) ∧
          tree.table = table ∧ tree.columns = columns.sort (· ≤ ·) ∧ tree.Aligned ∧
          ((∃ rows, tree.source = .values rows) ∨
            builder.dialect.vendor = .sqlite ∧ ∃ rows, tree.source = .selects rows) ∧
          List.Forall₂ (fun row record => row.map Prod.fst = tree.columns ∧
            ∀ cell ∈ row, record.get? cell.1 = some cell.2) tree.rows records ∧
          (table.Fair builder.dialect →
            (∀ record ∈ records, ∀ operand ∈ record.operands, operand.Fair builder.dialect) →
            builder.dialect.fill (tree.statement builder.dialect).sql
                (tree.statement builder.dialect).bindings =
              some (tree.written builder.dialect)) ∧
          ∀ permuted, List.Forall₂ (fun one other => one.entries.Perm other.entries) records
              permuted → builder.insertMany permuted = builder.insertMany records) ∧
    ∀ records : List Record, (∃ one ∈ records, ∃ other ∈ records,
        one.columns.toFinset ≠ other.columns.toFinset) →
      builder.insertMany records = .failure (.invalidArgument .unequalColumns) := by
  constructor
  · intro columns records nonempty given listed
    have distinct := fun record member => (listed record member).1
    have shared := sharedColumns_sorted given listed
    have filled : columns.sort (· ≤ ·) ≠ [] := by
      rw [← List.length_pos_iff, Finset.length_sort]
      exact nonempty.card_pos
    refine ⟨builder.insertTree table (columns.sort (· ≤ ·)) records,
      Builder.insertMany_eq accepted named given shared, rfl, rfl,
      InsertTree.aligned_ofRecords shared, source_insertTree filled,
      rows_insertTree distinct shared filled, fun target fair => ?_, fun permuted perm => ?_⟩
    · refine InsertTree.fill_statement target fun row member operand listed => ?_
      obtain ⟨record, given, used⟩ := operands_insertTree filled member listed
      exact fair record given operand used
    · exact (insertMany_congr (map_sorted_eq distinct perm)).symm
  · rintro records ⟨one, first, other, second, unequal⟩
    have given := List.ne_nil_of_mem first
    have different : one.sorted.columns ≠ other.sorted.columns := by
      intro same
      refine unequal (List.toFinset_eq_of_perm _ _ ?_)
      have perm := one.columns_sorted_perm
      rw [same] at perm
      exact perm.symm.trans other.columns_sorted_perm
    exact Builder.insertMany_refused accepted named given (sharedColumns_unequal
      (List.mem_map_of_mem first) (List.mem_map_of_mem second) different)

def peopleBuilder (vendor : Vendor) : Builder :=
  ({ dialect := vendor.dialect } : Builder).run [.table (.named "people")]

/-- Two records with their columns in different orders, and a fragment among the values. -/
def people : List Record :=
  [⟨[("name", .bound (.text "Ann")), ("age", .verbatim "20 + 1")]⟩,
    ⟨[("age", .bound (.integer 30)), ("name", .bound (.text "Bob"))]⟩]

theorem people_line_up :
    (peopleBuilder .sqlite).fault = none ∧
      (peopleBuilder .sqlite).query.table = some (.named "people") ∧
      (∀ record ∈ people,
        record.columns.Nodup ∧ record.columns.toFinset = ({"age", "name"} : Finset String)) ∧
      (∃ tree : InsertTree,
        (peopleBuilder .sqlite).insertMany people =
            .send (.execute (tree.statement (peopleBuilder .sqlite).dialect))
              (fun _ => .result ()) ∧
          tree.columns = ({"age", "name"} : Finset String).sort (· ≤ ·) ∧ tree.Aligned ∧
          List.Forall₂ (fun row record => row.map Prod.fst = tree.columns ∧
            ∀ cell ∈ row, record.get? cell.1 = some cell.2) tree.rows people ∧
          (peopleBuilder .sqlite).dialect.fill
              (tree.statement (peopleBuilder .sqlite).dialect).sql
              (tree.statement (peopleBuilder .sqlite).dialect).bindings =
            some (tree.written (peopleBuilder .sqlite).dialect)) ∧
      (peopleBuilder .sqlite).insertMany (.empty :: people) =
        .failure (.invalidArgument .unequalColumns) := by
  have listed : ∀ record ∈ people,
      record.columns.Nodup ∧ record.columns.toFinset = ({"age", "name"} : Finset String) := by
    decide
  have fair : ∀ record ∈ people, ∀ operand ∈ record.operands,
      operand.Fair (peopleBuilder .sqlite).dialect := by
    have fragment : (peopleBuilder .sqlite).dialect.Supplied "20 + 1" [] := by decide
    simp only [people, Record.operands, List.forall_mem_cons, List.map_cons, List.map_nil]
    exact ⟨⟨trivial, fragment, by simp⟩, ⟨trivial, trivial, by simp⟩, by simp⟩
  obtain ⟨equal, unequal⟩ := @inserted_rows_line_up (peopleBuilder .sqlite) _ rfl rfl
  obtain ⟨tree, sent, -, columns, aligned, -, rows, fill, -⟩ :=
    equal {"age", "name"} people (by simp) (by simp [people]) listed
  refine ⟨rfl, rfl, listed, ⟨tree, sent, columns, aligned, rows, fill trivial fair⟩, ?_⟩
  exact unequal _ ⟨.empty, by simp, people.head (by simp [people]),
    List.mem_cons_of_mem _ (List.head_mem _), by decide⟩

/-- An insert creates a row for each of its records just if these have columns or there is only
one of them: all records without columns are one row of defaults. -/
theorem row_per_record_iff {records : List Record} {statement : Statement}
    {next : Receipt → Program Unit} (given : records ≠ [])
    (sent : builder.insertMany records = .send (.execute statement) next) :
    ∃ tree : InsertTree, statement = tree.statement builder.dialect ∧
      builder.query.table = some tree.table ∧ tree.Aligned ∧
      (∀ record ∈ records, record.columns.Perm tree.columns) ∧
      (tree.rows.length = records.length ↔ tree.columns ≠ [] ∨ records.length = 1) := by
  obtain ⟨table, columns, named, shared, same⟩ := Builder.of_insertMany given sent
  obtain rfl := Request.execute.inj same
  refine ⟨builder.insertTree table columns records, rfl, named, InsertTree.aligned_ofRecords shared,
    fun record member => ?_, ?_⟩
  · have sorted := (sharedColumns_eq_ok_iff.mp shared).2 _ (List.mem_map_of_mem member)
    change record.columns.Perm columns
    rw [← sorted]
    exact record.columns_sorted_perm.symm
  · change _ ↔ columns ≠ [] ∨ records.length = 1
    rw [Builder.insertTree, InsertTree.length_rows_ofRecords shared, List.length_map]
    split_ifs with empty
    · simp [empty, eq_comm]
    · simp [empty]

theorem people_have_rows :
    ∃ statement next,
      (peopleBuilder .mysql).insertMany people = .send (.execute statement) next ∧
        ∃ tree : InsertTree, statement = tree.statement (peopleBuilder .mysql).dialect ∧
          tree.rows.length = people.length := by
  have listed : ∀ record ∈ people,
      record.columns.Nodup ∧ record.columns.toFinset = ({"age", "name"} : Finset String) := by
    decide
  have sent := @Builder.insertMany_eq (peopleBuilder .mysql) _ _ people rfl rfl (by simp [people])
    (sharedColumns_sorted (by simp [people]) listed)
  refine ⟨_, _, sent, ?_⟩
  obtain ⟨tree, same, -, -, columns, rows⟩ := row_per_record_iff (by simp [people]) sent
  refine ⟨tree, same, rows.mpr (.inl fun empty => ?_)⟩
  have two := (columns _ (List.head_mem (by simp [people]))).length_eq
  rw [empty] at two
  cases two

/-- Two records without columns are sent as one row. -/
theorem empty_records_share_row :
    (peopleBuilder .mysql).insertMany [.empty, .empty] =
        .send (.execute ⟨"INSERT INTO \x60people\x60 () VALUES ()", []⟩) (fun _ => .result ()) ∧
      (InsertTree.mk (.named "people") [] .defaults).statement (peopleBuilder .mysql).dialect =
        ⟨"INSERT INTO \x60people\x60 () VALUES ()", []⟩ ∧
      (InsertTree.mk (.named "people") [] .defaults).rows.length ≠
        [Record.empty, Record.empty].length := by
  have shared : sharedColumns ([Record.empty, Record.empty].map Record.sorted) = .ok [] := by
    rw [sharedColumns_eq_ok_iff]
    simp [Record.sorted, Record.columns, Record.empty]
  have written : (InsertTree.mk (.named "people") [] .defaults).statement
      (peopleBuilder .mysql).dialect = ⟨"INSERT INTO \x60people\x60 () VALUES ()", []⟩ := by
    decide
  refine ⟨?_, written, by decide⟩
  rw [← written]
  exact Builder.insertMany_eq rfl rfl (by simp) shared

end SqlToolkit
