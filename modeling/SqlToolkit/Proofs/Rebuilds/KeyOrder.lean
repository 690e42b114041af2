import Mathlib
import SqlToolkit.Proofs.Rebuilds.Survival
/-!
The order of the columns in the primary key of a table that is rebuilt. SQLite tells for each column
its place in the key, but a rebuild goes by the order of the columns in the table.
-/

namespace SqlToolkit

open Reading

/-- The place of a column in the primary key, counted from one; zero for a column outside of it. -/
def Row.keyPlace (row : Row) : Int :=
  ((row.get? "pk").bind Value.integer?).getD 0

namespace ColumnInfo

/-- A column that a row tells of, with its place in the key. -/
def placed? (row : Row) : Option (ColumnInfo × Int) :=
  (ofRow? row).map fun info => (info, row.keyPlace)

theorem primaryKey_ofRow? {row : Row} {info : ColumnInfo} (told : ofRow? row = some info) :
    info.primaryKey = decide (row.keyPlace ≠ 0) := by
  obtain ⟨value, -, told⟩ := Option.bind_eq_some_iff.mp told
  obtain ⟨name, -, told⟩ := Option.bind_eq_some_iff.mp told
  cases told
  rfl

end ColumnInfo

/-- The columns of the primary key that are kept, in the order of the table. -/
def keyPlaces (rows : List Row) (kept : String → Bool) : List (ColumnInfo × Int) :=
  (rows.filterMap ColumnInfo.placed?).filter fun column => column.2 ≠ 0 && kept column.1.name

/-- The names of these columns, in the order of their places. -/
def keyByPlace (rows : List Row) (kept : String → Bool) : List String :=
  ((keyPlaces rows kept).mergeSort fun first second => first.2 ≤ second.2).map (·.1.name)

theorem eq_of_map_eq {α β : Type} {f : α → β} {first second : List α}
    (apart : ∀ a ∈ first, ∀ b ∈ second, f a = f b → a = b) (same : first.map f = second.map f) :
    first = second := by
  induction first generalizing second with
  | nil => exact (List.map_eq_nil_iff.mp same.symm).symm
  | cons a first ih =>
      cases second with
      | nil => cases same
      | cons b second =>
          obtain ⟨head, rest⟩ := List.cons_eq_cons.mp same
          obtain rfl := apart a List.mem_cons_self b List.mem_cons_self head
          rw [ih (fun c member d memberToo => apart c (List.mem_cons_of_mem a member) d
            (List.mem_cons_of_mem a memberToo)) rest]

section Keys

variable {rows : List Row} {kept : String → Bool}

theorem fst_placed (rows : List Row) :
    (rows.filterMap ColumnInfo.placed?).map Prod.fst = rows.filterMap ColumnInfo.ofRow? := by
  rw [List.map_filterMap]
  refine List.filterMap_congr fun row _ => ?_
  cases told : ColumnInfo.ofRow? row <;> simp [ColumnInfo.placed?, told]

theorem primaryKey_of_placed {column : ColumnInfo × Int}
    (member : column ∈ rows.filterMap ColumnInfo.placed?) :
    column.1.primaryKey = decide (column.2 ≠ 0) := by
  obtain ⟨row, -, placed⟩ := List.mem_filterMap.mp member
  obtain ⟨info, told, rfl⟩ := Option.map_eq_some_iff.mp placed
  exact ColumnInfo.primaryKey_ofRow? told

/-- What a rebuild takes for the key, if it keeps these columns. -/
theorem key_of_answer {context : TableContext}
    (answered : context.columns = rows.filterMap ColumnInfo.ofRow?) (kept : String → Bool) :
    context.stored.key.filter kept = (keyPlaces rows kept).map (·.1.name) := by
  have marked : (rows.filterMap ColumnInfo.placed?).filter (fun column =>
      column.1.primaryKey && kept column.1.name) = keyPlaces rows kept :=
    List.filter_congr fun column member => by rw [primaryKey_of_placed member]
  rw [← marked]
  simp only [TableContext.stored, answered, ← fst_placed, List.filter_map, List.map_map,
    List.filter_filter]
  rw [List.filter_congr fun _ _ => Bool.and_comm _ _]
  rfl

/-- The order of the table is that of the key just if the places ascend along the table. -/
theorem keyByPlace_eq_iff (distinct : ((keyPlaces rows kept).map (·.1.name)).Nodup) :
    (keyPlaces rows kept).map (·.1.name) = keyByPlace rows kept ↔
      (keyPlaces rows kept).Pairwise fun first second => first.2 ≤ second.2 := by
  let le : ColumnInfo × Int → ColumnInfo × Int → Bool := fun first second => first.2 ≤ second.2
  constructor
  · intro same
    have sorted : ((keyPlaces rows kept).mergeSort le).Pairwise fun a b => le a b :=
      List.pairwise_mergeSort (fun a b c => by simp only [le, decide_eq_true_eq]; omega)
        (fun a b => by simp only [le, Bool.or_eq_true, decide_eq_true_eq]; omega) _
    -- The names tell the columns apart, so what is said of their order holds of the columns.
    have listed : keyPlaces rows kept = (keyPlaces rows kept).mergeSort le :=
      eq_of_map_eq (fun a member b memberToo =>
        List.inj_on_of_nodup_map distinct member (List.mem_mergeSort.mp memberToo)) same
    rw [listed]
    exact sorted.imp fun ascends => of_decide_eq_true ascends
  · intro ascending
    have sorted : (keyPlaces rows kept).mergeSort le = keyPlaces rows kept :=
      List.mergeSort_of_pairwise (ascending.imp fun ascends => decide_eq_true ascends)
    rw [keyByPlace, sorted]

end Keys

namespace Command

variable {dialect : SchemaDialect} {blueprint : Blueprint} {context : TableContext}
  {command : Command}

/-- A change of columns none of which counts, or a drop of columns: the key is declared as it was,
but for the columns that are dropped. -/
def KeepsOldKey (blueprint : Blueprint) : Command → Prop
  | change => blueprint.counts = false
  | dropColumns _ => True
  | _ => False

theorem key_applied (old : command.KeepsOldKey blueprint) :
    (command.applied dialect blueprint context.stored).key =
      context.stored.key.filter command.keeps := by
  cases command with
  | change =>
      have whole : context.stored.key.filter change.keeps = context.stored.key :=
        List.filter_eq_self.mpr fun _ _ => rfl
      have uncounted : blueprint.counts = false := old
      simp [applied, uncounted, whole]
  | dropColumns dropped => rfl
  | _ => exact old.elim

theorem command_eq (sqlite : dialect.vendor = .sqlite) (told : context.columns ≠ [])
    (old : command.KeepsOldKey blueprint) :
    dialect.command blueprint context command = .ok (dialect.rebuild blueprint
      (dialect.definitions (command.applied dialect blueprint context.stored))
      (command.applied dialect blueprint context.stored).names context) := by
  cases command with
  | change => exact SchemaDialect.change_eq sqlite blueprint told
  | dropColumns dropped =>
      exact congrArg Except.ok (SchemaDialect.dropColumns_eq sqlite blueprint told dropped)
  | _ => exact old.elim

/-- A table that is left with a column is made anew by a statement that is read as just that. -/
theorem reads_applied (sqlite : dialect.vendor = .sqlite) (told : context.Told)
    (settled : ∀ column ∈ blueprint.changed, column.Settled) (old : command.KeepsOldKey blueprint)
    (filled : (command.applied dialect blueprint context.stored).columns ≠ []) :
    ∃ text ∈ dialect.rebuild blueprint
        (dialect.definitions (command.applied dialect blueprint context.stored))
        (command.applied dialect blueprint context.stored).names context,
      Reading.alteration (dialect.tableOf blueprint).toList (dialect.copyOf blueprint).toList
        text.toList = some (.createTable (command.applied dialect blueprint context.stored)) := by
  refine ⟨_, SchemaDialect.mem_rebuild dialect blueprint context _ _, ?_⟩
  cases command with
  | change =>
      exact SchemaDialect.reads_createTable sqlite blueprint filled (plain_change told)
        (sound_change told).2 (legible_change sqlite told settled)
  | dropColumns dropped =>
      exact SchemaDialect.reads_createTable sqlite blueprint filled (plain_without told dropped)
        (sound_without told dropped).2 (legible_without told dropped)
  | _ => exact old.elim

end Command

namespace SchemaDialect

variable {dialect : SchemaDialect} {blueprint : Blueprint} {context : TableContext}
  {command : Command} {rows : List Row}

/-- A rebuild declares the surviving key columns in the order of the table. That is the order of
their places in the key just if the places of those that survive ascend along the table. -/
theorem key_order_kept_iff (sqlite : dialect.vendor = .sqlite) (filled : context.columns ≠ [])
    (answered : context.columns = rows.filterMap ColumnInfo.ofRow?)
    (distinct : (context.columns.map (·.name)).Nodup) (old : command.KeepsOldKey blueprint) :
    ∃ table : StoredTable,
      dialect.command blueprint context command =
        .ok (dialect.rebuild blueprint (dialect.definitions table) table.names context) ∧
      (context.Told → (∀ column ∈ blueprint.changed, column.Settled) → table.columns ≠ [] →
        ∃ text ∈ dialect.rebuild blueprint (dialect.definitions table) table.names context,
          Reading.alteration (dialect.tableOf blueprint).toList (dialect.copyOf blueprint).toList
            text.toList = some (.createTable table)) ∧
      table.key.Perm (keyByPlace rows command.keeps) ∧
      (table.key = keyByPlace rows command.keeps ↔
        (keyPlaces rows command.keeps).Pairwise fun first second => first.2 ≤ second.2) := by
  have key := (@Command.key_applied dialect blueprint context command old).trans
    (key_of_answer answered command.keeps)
  have apart : ((keyPlaces rows command.keeps).map (·.1.name)).Nodup := by
    rw [← key_of_answer answered]
    refine List.Nodup.filter _ ?_
    exact distinct.sublist (List.filter_sublist.map _)
  refine ⟨_, Command.command_eq sqlite filled old, fun told settled left =>
    Command.reads_applied sqlite told settled old left, ?_, ?_⟩
  · rw [key]
    exact ((List.mergeSort_perm _ _).map _).symm
  · rw [key]
    exact keyByPlace_eq_iff apart

end SchemaDialect

/-- SQLite tells of a column of whole numbers that has this place in the primary key. -/
def integerRow (name : String) (place : Int) : Row :=
  ⟨["name", "type", "notnull", "dflt_value", "pk"],
    [.text name, .text "INTEGER", .integer 1, .null, .integer place]⟩

def memberships : Blueprint :=
  { table := "members" }

/-- A key that has its columns in the order of the table is kept when another column is dropped. -/
theorem memberships_keep_key_order :
    let rows := [integerRow "team" 1, integerRow "note" 0, integerRow "user" 2]
    let context : TableContext := { columns := rows.filterMap ColumnInfo.ofRow? }
    let command := Command.dropColumns ["note"]
    sqliteDialect.vendor = .sqlite ∧ context.columns ≠ [] ∧
      (context.columns.map (·.name)).Nodup ∧ command.KeepsOldKey memberships ∧
      ∃ table : StoredTable,
        sqliteDialect.command memberships context command = .ok (sqliteDialect.rebuild memberships
          (sqliteDialect.definitions table) table.names context) ∧
        table.key = ["team", "user"] := by
  intro rows context command
  have sqlite : sqliteDialect.vendor = .sqlite := rfl
  have filled : context.columns ≠ [] := by decide
  have distinct : (context.columns.map (·.name)).Nodup := by decide
  have old : command.KeepsOldKey memberships := trivial
  have answered : context.columns = rows.filterMap ColumnInfo.ofRow? := rfl
  obtain ⟨table, written, -, -, ordered⟩ :=
    SchemaDialect.key_order_kept_iff sqlite filled answered distinct old
  have ascending : (keyPlaces rows command.keeps).Pairwise
      fun first second => first.2 ≤ second.2 := by decide
  have key : keyByPlace rows command.keeps = ["team", "user"] := by cbv
  exact ⟨sqlite, filled, distinct, old, table, written, (ordered.mpr ascending).trans key⟩

/-- The key of teams and users comes back as one of users and teams. -/
theorem key_in_table_order :
    let rows := [integerRow "user" 2, integerRow "team" 1, integerRow "note" 0]
    keyByPlace rows (Command.dropColumns ["note"]).keeps = ["team", "user"] ∧
      sqliteDialect.command memberships { columns := rows.filterMap ColumnInfo.ofRow? }
          (.dropColumns ["note"]) = .ok [
        "CREATE TEMPORARY TABLE \"__temp__members\" AS SELECT \"user\", \"team\" FROM \"members\"",
        "DROP TABLE \"members\"",
        "CREATE TABLE \"members\" (\"user\" INTEGER NOT NULL, \"team\" INTEGER NOT NULL, " ++
          "PRIMARY KEY (\"user\", \"team\"))",
        "INSERT INTO \"members\" (\"user\", \"team\") " ++
          "SELECT \"user\", \"team\" FROM \"__temp__members\"",
        "DROP TABLE \"__temp__members\""] := by
  intro rows
  exact ⟨by cbv, by decide⟩

end SqlToolkit
