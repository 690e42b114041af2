import Mathlib.Tactic.SplitIfs
import SqlToolkit.Query.Write
/-!
What the statements that change rows are made of: the parts that a vendor joins, and when there is no
statement. The texts are taken apart by these lemmas only.
-/

namespace SqlToolkit

theorem sharedColumns_eq_ok_iff {records : List Record} {columns : List String} :
    sharedColumns records = .ok columns ↔
      records ≠ [] ∧ ∀ record ∈ records, record.columns = columns := by
  cases records with
  | nil => simp [sharedColumns]
  | cons first rest =>
      simp only [sharedColumns, List.all_eq_true, decide_eq_true_eq, List.forall_mem_cons]
      split_ifs with same
      · constructor
        · rintro ⟨⟩
          exact ⟨by simp, rfl, same⟩
        · rintro ⟨-, rfl, -⟩
          rfl
      · constructor
        · rintro ⟨⟩
        · rintro ⟨-, rfl, others⟩
          exact absurd others same

namespace Dialect

/-! The texts -/

section Texts

variable (dialect : Dialect) (query : Query)

/-- The insert of records that share `columns`. -/
def insertInto (table : Identifier) (columns : List String) (records : List Record) : String :=
  if columns = [] then dialect.insertDefaults (dialect.tableRef table)
  else "INSERT INTO " ++ dialect.tableRef table ++ " (" ++ dialect.columns columns ++ ") " ++
    dialect.insertRows records

/-- The texts of a change to the rows of a table. MySQL bounds the change of one table, and joins by
clauses; PostgreSQL lists the joined tables; SQLite has no joins here. -/
inductive Arranged (alone bounded joined listed : String) : String → Prop
  | alone (elsewhere : dialect.vendor ≠ .mysql) (single : query.joins = []) :
      Arranged alone bounded joined listed alone
  | bounded (mysql : dialect.vendor = .mysql) (single : query.joins = []) :
      Arranged alone bounded joined listed bounded
  | joined (mysql : dialect.vendor = .mysql) (several : query.joins ≠ []) :
      Arranged alone bounded joined listed joined
  | listed (postgres : dialect.vendor = .postgres) (several : query.joins ≠ []) :
      Arranged alone bounded joined listed listed

def Updates (record : Record) (table : Identifier) : String → Prop :=
  let update := "UPDATE " ++ dialect.tableRef table
  let set := "SET " ++ dialect.assignments record
  let wheres := dialect.whereClause query.wheres
  dialect.Arranged query
    (joinParts [update ++ " " ++ set, wheres])
    (joinParts [update, set, wheres, dialect.orderClause query.window.orders,
      dialect.limitClause query.window])
    (joinParts [update, dialect.joins query.joins, set, wheres])
    (joinParts [update ++ " " ++ set, "FROM " ++ dialect.joinedTables query.joins,
      dialect.joinedWhere query.joins query.wheres])

def Deletes (table : Identifier) : String → Prop :=
  let target := dialect.tableRef table
  let wheres := dialect.whereClause query.wheres
  dialect.Arranged query
    (joinParts ["DELETE FROM " ++ target, wheres])
    (joinParts ["DELETE FROM " ++ target, wheres, dialect.orderClause query.window.orders,
      dialect.limitClause query.window])
    (joinParts ["DELETE " ++ dialect.deleteTarget table ++ " FROM " ++ target,
      dialect.joins query.joins, wheres])
    (joinParts ["DELETE FROM " ++ target ++ " USING " ++ dialect.joinedTables query.joins,
      dialect.joinedWhere query.joins query.wheres])

end Texts

/-! When there is a statement, and which -/

variable {dialect : Dialect} {query : Query} {record : Record} {records : List Record}
  {table : Identifier} {sql : String}

theorem targetTable_eq (named : query.table = some table) :
    dialect.targetTable query = .ok (dialect.tableRef table) := by
  rw [targetTable, named]

theorem targetTable_refused (unnamed : query.table = none) :
    dialect.targetTable query = .error .noTable := by
  rw [targetTable, unnamed]

theorem insert_eq {columns : List String} (named : query.table = some table)
    (shared : sharedColumns records = .ok columns) :
    dialect.insert query records = .ok (dialect.insertInto table columns records) := by
  simp only [insert, targetTable_eq named, shared, insertInto, bind, Except.bind]
  split_ifs <;> rfl

theorem insert_eq_ok_iff :
    dialect.insert query records = .ok sql ↔
      ∃ table columns, query.table = some table ∧ sharedColumns records = .ok columns ∧
        sql = dialect.insertInto table columns records := by
  cases named : query.table with
  | none => simp [insert, targetTable_refused named, bind, Except.bind]
  | some table =>
      cases shared : sharedColumns records with
      | error fault => simp [insert, targetTable_eq named, shared, bind, Except.bind]
      | ok columns => simp [insert_eq named shared, eq_comm]

section Arranged

variable {alone bounded joined listed : String}

theorem arranged_iff_eq :
    dialect.Arranged query alone bounded joined listed sql ↔
      (dialect.vendor = .sqlite → query.joins = []) ∧
        sql = if query.joins = [] then if dialect.vendor = .mysql then bounded else alone
          else if dialect.vendor = .mysql then joined else listed := by
  constructor
  · rintro (⟨elsewhere, single⟩ | ⟨mysql, single⟩ | ⟨mysql, several⟩ | ⟨postgres, several⟩)
    · simp [elsewhere, single]
    · simp [mysql, single]
    · simp [mysql, several]
    · simp [postgres, several]
  · rintro ⟨refused, rfl⟩
    by_cases single : query.joins = []
    · rw [if_pos single]
      by_cases mysql : dialect.vendor = .mysql
      · rw [if_pos mysql]
        exact .bounded mysql single
      · rw [if_neg mysql]
        exact .alone mysql single
    · rw [if_neg single]
      cases vendor : dialect.vendor with
      | sqlite => exact absurd (refused vendor) single
      | mysql => exact .joined vendor single
      | postgres => exact .listed vendor single

theorem arranged_iff {fault : Fault} :
    (match dialect.vendor with
      | .sqlite => if !query.joins.isEmpty then .error fault else .ok alone
      | .mysql => if query.joins.isEmpty then .ok bounded else .ok joined
      | .postgres => if query.joins.isEmpty then .ok alone else .ok listed : Except Fault String) =
        .ok sql ↔
    dialect.Arranged query alone bounded joined listed sql := by
  have written {text : String} : (.ok text : Except Fault String) = .ok sql ↔ sql = text := by
    rw [Except.ok.injEq, eq_comm]
  rw [arranged_iff_eq]
  cases dialect.vendor <;> by_cases single : query.joins = [] <;> simp [single, written]

end Arranged

theorem update_eq_ok_iff :
    dialect.update query record = .ok sql ↔
      ∃ table, query.table = some table ∧ record.isEmpty = false ∧
        dialect.Updates query record table sql := by
  cases named : query.table with
  | none => simp [update, targetTable_refused named, bind, Except.bind]
  | some table =>
      cases assigned : record.isEmpty with
      | true =>
          simp [update, targetTable_eq named, assigned, bind, Except.bind, throw, throwThe,
            MonadExceptOf.throw]
      | false =>
          simp only [Option.some.injEq, exists_eq_left', true_and]
          simp only [update, targetTable_eq named, assigned, bind, Except.bind]
          exact arranged_iff

theorem delete_eq_ok_iff :
    dialect.delete query = .ok sql ↔
      ∃ table, query.table = some table ∧ dialect.Deletes query table sql := by
  cases named : query.table with
  | none => simp [delete, targetTable_refused named, bind, Except.bind]
  | some table =>
      simp only [Option.some.injEq, exists_eq_left']
      simp only [delete, targetTable_eq named, named, bind, Except.bind]
      exact arranged_iff

end Dialect

end SqlToolkit
