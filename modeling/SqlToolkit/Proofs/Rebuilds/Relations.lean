import Mathlib.Data.List.Nodup
import Mathlib.Data.Multiset.MapFold
import SqlToolkit.Proofs.Alterations.Commands
import SqlToolkit.Row
/-!
Tables with their rows, and what the statements of a rebuild do to them. Nothing limits the values of
the rows, but no table can be dropped while the database enforces foreign keys.
-/

namespace SqlToolkit

namespace Row

/-- The values under some columns, in the order in which these are listed. -/
def select (columns : List String) (row : Row) : Row where
  columns := columns
  values := columns.map fun column => (row.get? column).getD .null

/-- What is left of a row in the columns that are kept. -/
def restrict (kept : String → Bool) (row : Row) : Row where
  columns := (row.pairs.filter fun pair => kept pair.1).map Prod.fst
  values := (row.pairs.filter fun pair => kept pair.1).map Prod.snd

/-- A row with one value for each of the columns. -/
structure Under (columns : List String) (row : Row) : Prop where
  named : row.columns = columns
  filled : row.values.length = columns.length

variable {columns : List String} {row : Row}

theorem select_under (columns : List String) (row : Row) : (row.select columns).Under columns where
  named := rfl
  filled := List.length_map _

theorem Under.names (under : row.Under columns) : row.pairs.map Prod.fst = columns := by
  rw [pairs, List.map_fst_zip (by rw [under.named, under.filled]), under.named]

theorem Under.get?_of_mem {column : String} {value : Value} (under : row.Under columns)
    (distinct : columns.Nodup) (member : (column, value) ∈ row.pairs) :
    row.get? column = some value := by
  rw [← under.names] at distinct
  rw [get?]
  generalize row.pairs = pairs at distinct member
  induction pairs with
  | nil => cases member
  | cons pair rest ih =>
      obtain ⟨fresh, others⟩ := List.nodup_cons.mp distinct
      rcases List.mem_cons.mp member with rfl | later
      · simp
      · have other : (column == pair.1) = false := by
          rw [beq_eq_false_iff_ne]
          rintro rfl
          exact fresh (List.mem_map.mpr ⟨_, later, rfl⟩)
        rw [List.lookup_cons, other]
        exact ih others later

/-- A row that has been copied is copied on as it was. -/
theorem select_select (distinct : columns.Nodup) (row : Row) :
    (row.select columns).select columns = row.select columns := by
  have pairs : (row.select columns).pairs =
      columns.map fun column => (column, (row.get? column).getD .null) :=
    List.map_prod_left_eq_zip.symm
  have again (column : String) (member : column ∈ columns) :
      (row.select columns).get? column = some ((row.get? column).getD .null) :=
    (select_under columns row).get?_of_mem distinct (pairs ▸ List.mem_map_of_mem member)
  rw [select, Row.mk.injEq]
  exact ⟨rfl, List.map_congr_left fun column member => by rw [again column member, Option.getD_some]⟩

/-- The columns that are kept, taken from a row, are what is left of it. -/
theorem select_filter (under : row.Under columns) (distinct : columns.Nodup)
    (kept : String → Bool) : row.select (columns.filter kept) = row.restrict kept := by
  have left : columns.filter kept = (row.pairs.filter fun pair => kept pair.1).map Prod.fst := by
    rw [← under.names, List.filter_map]
    rfl
  rw [restrict, select, left, Row.mk.injEq, List.map_map]
  refine ⟨rfl, List.map_congr_left fun pair member => ?_⟩
  have value := under.get?_of_mem distinct (List.mem_filter.mp member).1
  rw [Function.comp_apply, value, Option.getD_some]

end Row

/-! Tables with rows -/

/-- A table with its rows; the same row may be there several times. -/
@[ext]
structure Relation where
  table : StoredTable
  rows : Multiset Row
  shaped : ∀ row ∈ rows, row.Under table.names

/-- Columns that hold what they are given. -/
def StoredTable.undeclared (columns : List String) : StoredTable where
  columns := columns.map fun name => ⟨name, ""⟩

theorem StoredTable.names_undeclared (columns : List String) :
    (undeclared columns).names = columns := by
  simp [undeclared, names, Function.comp_def]

namespace Relation

def empty (table : StoredTable) : Relation where
  table := table
  rows := 0
  shaped := by simp

/-- The rows of a relation under the columns of a table. -/
def into (relation : Relation) (table : StoredTable) : Relation where
  table := table
  rows := relation.rows.map (Row.select table.names)
  shaped := by
    intro row member
    obtain ⟨old, -, rfl⟩ := Multiset.mem_map.mp member
    exact Row.select_under _ old

/-- Adds rows whose values go into some columns; the others are left without a value. -/
def insert (relation : Relation) (target : List String) (rows : Multiset Row) : Relation where
  table := relation.table
  rows := relation.rows +
    rows.map fun row => (Row.mk target row.values).select relation.table.names
  shaped := by
    intro row member
    rcases Multiset.mem_add.mp member with old | new
    · exact relation.shaped row old
    · obtain ⟨source, -, rfl⟩ := Multiset.mem_map.mp new
      exact Row.select_under _ _

/-- Rows that are copied away and back into a new table are under its columns. -/
theorem insert_copied (relation : Relation) {table : StoredTable} (distinct : table.names.Nodup) :
    (empty table).insert table.names
        ((relation.into (.undeclared table.names)).rows.map (Row.select table.names)) =
      relation.into table := by
  refine Relation.ext rfl ?_
  have copied (row : Row) : (Row.mk table.names ((row.select table.names).select
      table.names).values).select table.names = row.select table.names :=
    (Row.select_select distinct _).trans (Row.select_select distinct row)
  simp only [insert, into, empty, StoredTable.names_undeclared, Multiset.map_map, Multiset.zero_add]
  exact Multiset.map_congr rfl fun row _ => copied row

end Relation

/-- A table, unless it is dropped, and its temporary copy, if there is one. -/
structure RowStorage where
  /-- Whether foreign keys are enforced. -/
  enforced : Bool
  table : Option Relation
  copy : Option Relation := none

namespace RowStorage

/-- What a statement of a rebuild does; nothing if it names a column or a table that is not there, or
makes one that is. -/
def perform (storage : RowStorage) : Alteration → Option RowStorage
  | .copyAway columns =>
      storage.table.bind fun relation =>
        if storage.copy.isNone ∧ ∀ name ∈ columns, name ∈ relation.table.names then
          some { storage with copy := some (relation.into (.undeclared columns)) }
        else none
  | .dropTable =>
      if storage.enforced then none
      else storage.table.map fun _ => { storage with table := none }
  | .createTable table =>
      if storage.table.isNone ∧ table.Sound then
        some { storage with table := some (.empty table) }
      else none
  | .copyBack target source =>
      storage.table.bind fun relation =>
        storage.copy.bind fun copied =>
          if target.length = source.length ∧ (∀ name ∈ target, name ∈ relation.table.names) ∧
              ∀ name ∈ source, name ∈ copied.table.names then
            some { storage with
              table := some (relation.insert target (copied.rows.map (Row.select source))) }
          else none
  | .dropCopy =>
      if storage.enforced then none
      else storage.copy.map fun _ => { storage with copy := none }
  | .setting | .addColumn _ | .dropColumn _ | .renameColumn _ _ => none

/-- Whether a statement switches the enforcement of foreign keys on or off. -/
def switch? (text : String) : Option Bool :=
  if text = "PRAGMA foreign_keys = ON" then some true
  else if text = "PRAGMA foreign_keys = OFF" then some false
  else none

/-- Executes a statement on the table and the copy that are called by these texts. -/
def step (target copy : String) (storage : RowStorage) (text : String) : Option RowStorage :=
  match switch? text with
  | some enforced => some { storage with enforced }
  | none => (Reading.alteration target.toList copy.toList text.toList).bind storage.perform

def execute (target copy : String) (storage : RowStorage) (texts : List String) :
    Option RowStorage :=
  texts.foldlM (step target copy) storage

variable {target copy text : String} {storage next : RowStorage}

theorem switch?_eq_none {read : Alteration}
    (reads : Reading.alteration target.toList copy.toList text.toList = some read)
    (other : read ≠ .setting) : switch? text = none := by
  have unlike (setting : text = "PRAGMA foreign_keys = OFF" ∨ text = "PRAGMA foreign_keys = ON") :
      False := by
    have set : Reading.alteration target.toList copy.toList text.toList = some .setting := by
      rcases setting with rfl | rfl <;> rfl
    exact other (Option.some.inj (reads.symm.trans set))
  rw [switch?, if_neg fun on => unlike (.inr on), if_neg fun off => unlike (.inl off)]

theorem execute_cons {rest : List String} {read : Alteration}
    (reads : Reading.alteration target.toList copy.toList text.toList = some read)
    (performs : storage.perform read = some next) :
    storage.execute target copy (text :: rest) = next.execute target copy rest := by
  have other : read ≠ .setting := by
    rintro rfl
    cases performs
  have stepped : step target copy storage text = some next := by
    rw [step, switch?_eq_none reads other, reads]
    exact performs
  rw [execute, List.foldlM_cons, stepped]
  rfl

/-- Statements that succeed while foreign keys are not enforced succeed in between of switching them
off and on again, and the enforcement is then as it was. -/
theorem execute_withoutForeignKeys {context : TableContext} {statements : List String}
    {table after : Option Relation}
    (executed : execute target copy ⟨false, table, none⟩ statements = some ⟨false, after, none⟩) :
    execute target copy ⟨context.foreignKeys, table, none⟩
        (SchemaDialect.withoutForeignKeys context statements) =
      some ⟨context.foreignKeys, after, none⟩ := by
  unfold SchemaDialect.withoutForeignKeys
  cases context.foreignKeys with
  | false => exact executed
  | true =>
      have off (rest : List String) : execute target copy ⟨true, table, none⟩
          ("PRAGMA foreign_keys = OFF" :: rest) = execute target copy ⟨false, table, none⟩ rest := rfl
      rw [if_pos rfl, List.append_assoc, List.singleton_append, off, execute, List.foldlM_append,
        ← execute, executed]
      rfl

end RowStorage

namespace SchemaDialect

variable {dialect : SchemaDialect}

/-- Executes statements on the table of a blueprint and on its temporary copy. -/
def run (dialect : SchemaDialect) (blueprint : Blueprint) (storage : RowStorage)
    (statements : List String) : Option RowStorage :=
  storage.execute (dialect.tableOf blueprint) (dialect.copyOf blueprint) statements

/-- A rebuild brings the rows under the columns that it declares, if it finds each of them there. -/
theorem run_rebuild (sqlite : dialect.vendor = .sqlite) (blueprint : Blueprint)
    (context : TableContext) {relation : Relation} {rebuilt : StoredTable} (sound : rebuilt.Sound)
    (plain : ∀ name ∈ rebuilt.names, Plain name)
    (legible : ∀ column ∈ rebuilt.columns, Legible column.declaration)
    (there : ∀ name ∈ rebuilt.names, name ∈ relation.table.names) :
    dialect.run blueprint ⟨context.foreignKeys, some relation, none⟩
        (dialect.rebuild blueprint (dialect.definitions rebuilt) rebuilt.names context) =
      some ⟨context.foreignKeys, some (relation.into rebuilt), none⟩ := by
  have filled : rebuilt.names ≠ [] := by simpa [StoredTable.names] using sound.filled
  let copied : Relation := relation.into (.undeclared rebuilt.names)
  have copyNames : copied.table.names = rebuilt.names := StoredTable.names_undeclared rebuilt.names
  have copies : (RowStorage.mk false (some relation) none).perform (.copyAway rebuilt.names) =
      some ⟨false, some relation, some copied⟩ :=
    if_pos ⟨rfl, there⟩
  have drops : (RowStorage.mk false (some relation) (some copied)).perform .dropTable =
      some ⟨false, none, some copied⟩ := rfl
  have creates : (RowStorage.mk false none (some copied)).perform (.createTable rebuilt) =
      some ⟨false, some (.empty rebuilt), some copied⟩ :=
    if_pos ⟨rfl, sound⟩
  have copiesBack : (RowStorage.mk false (some (.empty rebuilt)) (some copied)).perform
      (.copyBack rebuilt.names rebuilt.names) =
        some ⟨false, some (relation.into rebuilt), some copied⟩ := by
    rw [← relation.insert_copied sound.distinct]
    exact if_pos ⟨rfl, fun _ member => member, copyNames ▸ fun _ member => member⟩
  have dropsCopy : (RowStorage.mk false (some (relation.into rebuilt)) (some copied)).perform
      .dropCopy = some ⟨false, some (relation.into rebuilt), none⟩ := rfl
  rw [run, rebuild, ← copyOf]
  refine RowStorage.execute_withoutForeignKeys ?_
  rw [RowStorage.execute_cons (reads_copyAway sqlite blueprint plain filled) copies,
    RowStorage.execute_cons (reads_dropTable dialect blueprint) drops,
    RowStorage.execute_cons (reads_createTable sqlite blueprint sound.filled plain sound.keyed legible)
      creates,
    RowStorage.execute_cons (reads_copyBack sqlite blueprint plain filled) copiesBack,
    RowStorage.execute_cons (reads_dropCopy sqlite blueprint) dropsCopy]
  rfl

end SchemaDialect

end SqlToolkit
