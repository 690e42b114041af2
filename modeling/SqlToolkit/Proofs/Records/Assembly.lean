import SqlToolkit.Proofs.Inserts.Records
import SqlToolkit.Proofs.Records.ByteOrder
/-!
Records as ordered maps. However a record is put together, each of its columns is there once, at the
place where it was first written, and has the operand that was written last.
-/

namespace SqlToolkit

namespace Record

variable {record other : Record}

theorem lookup_cons (name column : String) (operand : Operand) (rest : List (String × Operand)) :
    List.lookup name ((column, operand) :: rest) =
      if name = column then some operand else rest.lookup name := by
  by_cases same : name = column
  · simp [same]
  · rw [List.lookup_cons, beq_false_of_ne same, if_neg same]

/-! Inserting an entry -/

theorem columns_insert (record : Record) (column : String) (operand : Operand) :
    (record.insert column operand).columns =
      if column ∈ record.columns then record.columns else record.columns ++ [column] := by
  obtain ⟨entries⟩ := record
  simp only [insert, columns]
  induction entries with
  | nil => rfl
  | cons entry rest ih =>
      obtain ⟨name, old⟩ := entry
      by_cases same : name = column
      · simp [insertEntry, same]
      · have apart : column ≠ name := Ne.symm same
        rw [insertEntry, if_neg same, List.map_cons, ih]
        by_cases later : column ∈ rest.map (·.1) <;> simp [later, apart]

theorem get?_insert (record : Record) (column : String) (operand : Operand) (name : String) :
    (record.insert column operand).get? name =
      if name = column then some operand else record.get? name := by
  obtain ⟨entries⟩ := record
  simp only [insert, get?]
  induction entries with
  | nil => exact lookup_cons name column operand []
  | cons entry rest ih =>
      obtain ⟨other, old⟩ := entry
      by_cases there : other = column
      · rw [insertEntry, if_pos there, there, lookup_cons, lookup_cons]
        split_ifs <;> rfl
      · rw [insertEntry, if_neg there, lookup_cons, ih, lookup_cons]
        split_ifs with one two
        · exact absurd (one.symm.trans two) there
        all_goals rfl

theorem nodup_columns_insert (distinct : record.columns.Nodup) (column : String)
    (operand : Operand) : (record.insert column operand).columns.Nodup := by
  rw [columns_insert]
  split_ifs with there
  · exact distinct
  · exact List.nodup_append.mpr ⟨distinct, List.nodup_singleton _, by
      intro name member other same
      rw [List.mem_singleton.mp same]
      rintro rfl
      exact there member⟩

/-! Inserting several entries -/

/-- Entries that are inserted one by one. -/
def insertAll (record : Record) (entries : List (String × Operand)) : Record :=
  entries.foldl (fun record entry => record.insert entry.1 entry.2) record

theorem nodup_columns_insertAll (distinct : record.columns.Nodup)
    (entries : List (String × Operand)) : (record.insertAll entries).columns.Nodup := by
  induction entries generalizing record with
  | nil => exact distinct
  | cons entry rest ih => exact ih (nodup_columns_insert distinct entry.1 entry.2)

/-- The operand that was written last. -/
theorem get?_insertAll (record : Record) (entries : List (String × Operand)) (name : String) :
    (record.insertAll entries).get? name =
      (entries.reverse.lookup name).or (record.get? name) := by
  induction entries generalizing record with
  | nil => rfl
  | cons entry rest ih =>
      obtain ⟨column, operand⟩ := entry
      rw [insertAll, List.foldl_cons, ← insertAll, ih, get?_insert, List.reverse_cons,
        List.lookup_append]
      by_cases same : name = column <;> simp [lookup_cons, same]

/-- Columns that are new go last, in the order in which they were first written. -/
theorem columns_insertAll (record : Record) (entries : List (String × Operand)) :
    (record.insertAll entries).columns =
      record.columns ++ ((entries.map (·.1)).filter (· ∉ record.columns)).eraseDups := by
  induction entries generalizing record with
  | nil => exact (List.append_nil _).symm
  | cons entry rest ih =>
      rw [insertAll, List.foldl_cons, ← insertAll, ih, columns_insert, List.map_cons]
      by_cases there : entry.1 ∈ record.columns
      · simp [there]
      · have others : (rest.map (·.1)).filter (· ∉ record.columns ++ [entry.1]) =
            ((rest.map (·.1)).filter (· ∉ record.columns)).filter fun name => !name == entry.1 := by
          rw [List.filter_filter]
          refine List.filter_congr fun name _ => ?_
          by_cases same : name = entry.1 <;> simp [same]
        rw [if_neg there, others, List.filter_cons_of_pos (by simpa using there),
          List.eraseDups_cons, List.append_assoc, List.singleton_append]

/-! Records with distinct columns -/

theorem get?_eq_some_iff (distinct : record.columns.Nodup) {name : String} {operand : Operand} :
    record.get? name = some operand ↔ (name, operand) ∈ record.entries := by
  constructor
  · intro found
    obtain ⟨before, behind, same, -⟩ := List.lookup_eq_some_iff.mp found
    rw [same]
    simp
  · exact record.get?_of_mem distinct

/-- Entries in another order are the same map. -/
theorem perm_entries_iff (distinct : record.columns.Nodup) (others : other.columns.Nodup) :
    record.entries.Perm other.entries ↔ ∀ name, record.get? name = other.get? name := by
  constructor
  · intro perm name
    refine Option.ext fun operand => ?_
    rw [get?_eq_some_iff distinct, get?_eq_some_iff others, perm.mem_iff]
  · intro same
    refine (List.perm_ext_iff_of_nodup (.of_map _ distinct) (.of_map _ others)).mpr ?_
    rintro ⟨name, operand⟩
    rw [← get?_eq_some_iff distinct, ← get?_eq_some_iff others, same]

theorem get?_merge (others : other.columns.Nodup) (name : String) :
    (record.merge other).get? name = (other.get? name).or (record.get? name) := by
  have reversed : (⟨other.entries.reverse⟩ : Record).columns.Nodup := by
    rw [columns, List.map_reverse, List.nodup_reverse]
    exact others
  have same := (perm_entries_iff reversed others).mp (List.reverse_perm _) name
  rw [← same]
  exact record.get?_insertAll other.entries name

theorem eraseDups_of_nodup {names : List String} (distinct : names.Nodup) :
    names.eraseDups = names := by
  induction names with
  | nil => rfl
  | cons name names ih =>
      obtain ⟨absent, distinct⟩ := List.nodup_cons.mp distinct
      have kept : names.filter (fun other => !other == name) = names := by
        refine List.filter_eq_self.mpr fun other member => ?_
        simpa using fun same : other = name => absent (same ▸ member)
      rw [List.eraseDups_cons, kept, ih distinct]

theorem columns_merge (others : other.columns.Nodup) :
    (record.merge other).columns =
      record.columns ++ other.columns.filter (· ∉ record.columns) := by
  rw [← eraseDups_of_nodup (others.filter (· ∉ record.columns))]
  exact record.columns_insertAll other.entries

theorem nodup_columns_sorted (distinct : record.columns.Nodup) : record.sorted.columns.Nodup :=
  record.columns_sorted_perm.nodup_iff.mpr distinct

theorem get?_sorted (distinct : record.columns.Nodup) (name : String) :
    record.sorted.get? name = record.get? name :=
  (perm_entries_iff (nodup_columns_sorted distinct) distinct).mp record.sorted_perm name

theorem sorted_eq_iff (distinct : record.columns.Nodup) (others : other.columns.Nodup) :
    record.sorted = other.sorted ↔ ∀ name, record.get? name = other.get? name := by
  rw [← perm_entries_iff distinct others]
  constructor
  · intro same
    exact record.sorted_perm.symm.trans (same ▸ other.sorted_perm)
  · exact sorted_eq_of_perm distinct

theorem bytes_columns_sorted (distinct : record.columns.Nodup) :
    record.sorted.columns.Pairwise (Text.bytes · < Text.bytes ·) := by
  have apart := record.ascending_columns.and (nodup_columns_sorted distinct)
  refine apart.imp fun {one two} ⟨below, unequal⟩ => ?_
  exact Text.bytes_lt_iff.mpr (lt_of_le_of_ne below unequal)

theorem columns_sorted_eq (record : Record) :
    record.sorted.columns = record.columns.mergeSort fun left right =>
      ¬ Text.bytes right < Text.bytes left := by
  have columns : record.sorted.columns = record.columns.mergeSort (· ≤ ·) :=
    List.map_mergeSort fun _ _ _ _ => rfl
  simp only [columns, Text.bytes_lt_iff, String.not_lt]

theorem bindings_eq (distinct : record.columns.Nodup) :
    record.bindings = record.columns.filterMap fun name =>
      (record.get? name).bind Operand.binding? := by
  have operands : record.bindings = record.entries.filterMap (·.2.binding?) := by
    rw [List.filterMap_eq_flatMap_toList, bindings, Record.operands, List.flatMap_map]
    rfl
  rw [operands, columns, List.filterMap_map]
  refine List.filterMap_congr fun entry member => ?_
  rw [Function.comp_apply, get?_of_mem distinct member, Option.bind_some]

end Record

/-- How a record is put together. -/
inductive Assembly where
  | empty
  | ofList (entries : List (String × Operand))
  | insert (before : Assembly) (column : String) (operand : Operand)
  | merge (before other : Assembly)
  | sorted (before : Assembly)

namespace Assembly

def record : Assembly → Record
  | empty => .empty
  | ofList entries => .ofList entries
  | insert before column operand => before.record.insert column operand
  | merge before other => before.record.merge other.record
  | sorted before => before.record.sorted

/-- The operand that was written last to the column, if there is one. -/
def operand? (name : String) : Assembly → Option Operand
  | empty => none
  | ofList entries => entries.reverse.lookup name
  | insert before column operand => if name = column then some operand else before.operand? name
  | merge before other => (other.operand? name).or (before.operand? name)
  | sorted before => before.operand? name

/-- The columns in the order in which they were first written; sorting puts them in the order of
their bytes. -/
def columns : Assembly → List String
  | empty => []
  | ofList entries => (entries.map (·.1)).eraseDups
  | insert before column _ =>
      if column ∈ before.columns then before.columns else before.columns ++ [column]
  | merge before other => before.columns ++ other.columns.filter (· ∉ before.columns)
  | sorted before =>
      before.columns.mergeSort fun left right => ¬ Text.bytes right < Text.bytes left

theorem nodup_columns (assembly : Assembly) : assembly.record.columns.Nodup := by
  induction assembly with
  | empty => exact .nil
  | ofList entries =>
      have none : Record.empty.columns.Nodup := .nil
      exact Record.nodup_columns_insertAll none entries
  | insert before column operand ih => exact Record.nodup_columns_insert ih column operand
  | merge before other ih => exact Record.nodup_columns_insertAll ih other.record.entries
  | sorted before ih => exact Record.nodup_columns_sorted ih

theorem get?_record (assembly : Assembly) (name : String) :
    assembly.record.get? name = assembly.operand? name := by
  induction assembly with
  | empty => rfl
  | ofList entries => exact (Record.get?_insertAll _ _ _).trans Option.or_none
  | insert before column operand ih =>
      rw [record, Record.get?_insert, ih]
      rfl
  | merge before other ih others =>
      rw [record, Record.get?_merge other.nodup_columns, ih, others]
      rfl
  | sorted before ih => exact (Record.get?_sorted before.nodup_columns name).trans ih

theorem columns_record (assembly : Assembly) :
    assembly.record.columns = assembly.columns := by
  induction assembly with
  | empty => rfl
  | ofList entries =>
      have written := Record.empty.columns_insertAll entries
      rwa [List.filter_eq_self.mpr fun name _ => by simp [Record.columns, Record.empty]] at written
  | insert before column operand ih =>
      rw [record, Record.columns_insert, ih]
      rfl
  | merge before other ih others =>
      rw [record, Record.columns_merge other.nodup_columns, ih, others]
      rfl
  | sorted before ih => rw [record, Record.columns_sorted_eq, ih, columns]

/-- A record is an ordered map, however it is put together. -/
theorem ordered_map (assembly other : Assembly) :
    assembly.record.columns.Nodup ∧
    (∀ name, assembly.record.get? name = assembly.operand? name) ∧
    assembly.record.columns = assembly.columns ∧
    assembly.record.sorted.columns.Pairwise (Text.bytes · < Text.bytes ·) ∧
    (∀ name, assembly.record.sorted.get? name = assembly.record.get? name) ∧
    (assembly.record.sorted = other.record.sorted ↔
      ∀ name, assembly.record.get? name = other.record.get? name) ∧
    assembly.record.bindings = assembly.columns.filterMap fun name =>
      (assembly.operand? name).bind Operand.binding? := by
  have distinct := assembly.nodup_columns
  refine ⟨distinct, assembly.get?_record, assembly.columns_record,
    Record.bytes_columns_sorted distinct, Record.get?_sorted distinct,
    Record.sorted_eq_iff distinct other.nodup_columns, ?_⟩
  simp only [Record.bindings_eq distinct, columns_record, get?_record]

end Assembly

end SqlToolkit
