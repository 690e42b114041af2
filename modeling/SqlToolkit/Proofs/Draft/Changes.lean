import SqlToolkit.Proofs.Changes.Basic
import SqlToolkit.Proofs.Draft.Agreement
/-!
Updates and deletes of a draft, with every value in place: at its assignment, its join condition,
its predicate or its item of order.
-/

namespace SqlToolkit

namespace Filled

def assignments (dialect : Dialect) (record : Record) : Filled :=
  join ", " (record.entries.map fun (column, value) =>
    ofText (dialect.column column ++ " = ") ++ operand value)

theorem values_assignments (dialect : Dialect) (record : Record) :
    (assignments dialect record).values = record.bindings := by
  rw [assignments, values_join, List.flatMap_map, Record.bindings, Record.operands,
    List.flatMap_map]
  simp

end Filled

namespace Draft

variable (dialect : Dialect)

def target (draft : Draft) : String :=
  (draft.table.map dialect.tableRef).getD ""

def conditions (draft : Draft) : Filled :=
  Filled.join " AND "
    ((draft.joins.filter fun join => join.conditions ≠ []).map (Filled.joinConditions dialect))

def whereClause (draft : Draft) : Filled :=
  Filled.headed "WHERE" draft.wheres

/-- The conditions of all joins, and behind them the predicates of the draft as one group. -/
def joinedWhere (draft : Draft) : Filled :=
  if draft.conditions dialect = [] then draft.whereClause
  else if draft.wheres = [] then Filled.ofText "WHERE " ++ draft.conditions dialect
  else
    Filled.ofText "WHERE " ++ draft.conditions dialect ++ Filled.ofText " AND (" ++
      Filled.chain draft.wheres ++ Filled.ofText ")"

/-- MySQL orders and limits a change of one table. -/
def bounded (draft : Draft) : List Filled :=
  [draft.window.orderClause, Filled.ofText (dialect.limitClause draft.window.bounds)]

def update (draft : Draft) (record : Record) : Filled :=
  let set := Filled.ofText "SET " ++ Filled.assignments dialect record
  let front := Filled.ofText ("UPDATE " ++ draft.target dialect ++ " ") ++ set
  match dialect.vendor with
  | .sqlite => Filled.joinParts [front, draft.whereClause]
  | .mysql =>
      let table := Filled.ofText ("UPDATE " ++ draft.target dialect)
      if draft.joins = [] then
        Filled.joinParts ([table, set, draft.whereClause] ++ draft.bounded dialect)
      else
        Filled.joinParts [table, Filled.joinClauses dialect draft.joins, set, draft.whereClause]
  | .postgres =>
      if draft.joins = [] then Filled.joinParts [front, draft.whereClause]
      else
        Filled.joinParts [front, Filled.ofText ("FROM " ++ dialect.joinedTables draft.joins),
          draft.joinedWhere dialect]

def delete (draft : Draft) : Filled :=
  let front := Filled.ofText ("DELETE FROM " ++ draft.target dialect)
  match dialect.vendor with
  | .sqlite => Filled.joinParts [front, draft.whereClause]
  | .mysql =>
      if draft.joins = [] then
        Filled.joinParts ([front, draft.whereClause] ++ draft.bounded dialect)
      else
        let rows := (draft.table.map dialect.deleteTarget).getD ""
        Filled.joinParts
          [Filled.ofText ("DELETE " ++ rows ++ " FROM " ++ draft.target dialect),
            Filled.joinClauses dialect draft.joins, draft.whereClause]
  | .postgres =>
      if draft.joins = [] then Filled.joinParts [front, draft.whereClause]
      else
        Filled.joinParts
          [Filled.ofText ("DELETE FROM " ++ draft.target dialect ++ " USING " ++
            dialect.joinedTables draft.joins), draft.joinedWhere dialect]

/-! Values -/

variable {dialect}

theorem values_conditions (draft : Draft) :
    (draft.conditions dialect).values = draft.joinValues := by
  rw [conditions, Filled.values_join, List.flatMap_map, joinValues]
  induction draft.joins with
  | nil => rfl
  | cons first rest ih =>
      by_cases bare : first.conditions = []
      · simpa [bare, Join.bindings] using ih
      · simpa [bare, Filled.values_joinConditions] using ih

theorem values_whereClause (draft : Draft) : draft.whereClause.values = draft.whereValues :=
  Filled.values_headed "WHERE" draft.wheres

theorem values_joinedWhere (draft : Draft) :
    (draft.joinedWhere dialect).values = draft.joinValues ++ draft.whereValues := by
  unfold joinedWhere
  by_cases none : draft.conditions dialect = []
  · have bare : draft.joinValues = [] := by rw [← draft.values_conditions, none]; rfl
    rw [if_pos none, values_whereClause, bare, List.nil_append]
  · rw [if_neg none]
    by_cases empty : draft.wheres = []
    · simp [empty, values_conditions, whereValues]
    · rw [if_neg empty]
      simp [values_conditions, Filled.values_chain, whereValues]

theorem values_bounded (draft : Draft) :
    (draft.bounded dialect).flatMap Filled.values = draft.window.values := by
  simp [bounded, DraftWindow.values_orderClause]

theorem values_update (draft : Draft) (record : Record)
    (single : dialect.vendor = .sqlite → draft.joins = []) :
    (draft.update dialect record).values =
      if dialect.vendor = .mysql then
        draft.joinValues ++ record.bindings ++ draft.whereValues ++
          (if draft.joins = [] then draft.window.values else [])
      else record.bindings ++ draft.joinValues ++ draft.whereValues := by
  unfold update
  cases vendor : dialect.vendor with
  | sqlite =>
      simp [Filled.values_joinParts, Filled.values_assignments, values_whereClause, joinValues,
        single vendor]
  | mysql =>
      by_cases joins : draft.joins = []
      · simp [joins, Filled.values_joinParts, Filled.values_assignments, values_whereClause,
          values_bounded, joinValues]
      · simp [joins, Filled.values_joinParts, Filled.values_assignments, values_whereClause,
          Filled.values_joinClauses, joinValues]
  | postgres =>
      by_cases joins : draft.joins = []
      · simp [joins, Filled.values_joinParts, Filled.values_assignments, values_whereClause,
          joinValues]
      · simp [joins, Filled.values_joinParts, Filled.values_assignments, values_joinedWhere]

theorem values_delete (draft : Draft) (single : dialect.vendor = .sqlite → draft.joins = []) :
    (draft.delete dialect).values =
      draft.joinValues ++ draft.whereValues ++
        (if dialect.vendor = .mysql ∧ draft.joins = [] then draft.window.values else []) := by
  unfold delete
  cases vendor : dialect.vendor with
  | sqlite => simp [Filled.values_joinParts, values_whereClause, joinValues, single vendor]
  | mysql =>
      by_cases joins : draft.joins = []
      · simp [joins, Filled.values_joinParts, values_whereClause, values_bounded, joinValues]
      · simp [joins, Filled.values_joinParts, values_whereClause, Filled.values_joinClauses,
          joinValues]
  | postgres =>
      by_cases joins : draft.joins = []
      · simp [joins, Filled.values_joinParts, values_whereClause, joinValues]
      · simp [joins, Filled.values_joinParts, values_joinedWhere]

end Draft

/-! Agreement -/

namespace Dialect

variable {dialect : Dialect}

theorem spells_assignments {record : Record}
    (fair : ∀ entry ∈ record.entries, entry.2.Fair dialect) :
    dialect.Spells (dialect.assignments record) (Filled.assignments dialect record) := by
  refine Spells.intercalate (by decide) ?_
  rw [List.forall₂_map_left_iff, List.forall₂_map_right_iff, List.forall₂_same]
  intro entry member
  have front : dialect.Silent (dialect.column entry.1 ++ " = ") :=
    (silent_column entry.1).close (by decide)
  exact Spells.append front (spells_parameter (fair entry member)) (.of_joint (by decide))

theorem silent_deleteTarget {table : Identifier} (fair : table.Fair dialect) :
    dialect.Silent (dialect.deleteTarget table) := by
  cases table with
  | named name =>
      unfold deleteTarget
      dsimp only
      split
      · exact silent_quoted _
      · exact silent_table name
  | verbatim sql => exact Supplied.silent fair

theorem silent_joinedTables {joins : List Join} (taken : ∀ join ∈ joins, dialect.Joins join) :
    dialect.Silent (dialect.joinedTables joins) := by
  refine Silent.intercalate (by decide) fun text member => ?_
  obtain ⟨join, listed, rfl⟩ := List.mem_map.mp member
  exact silent_tableRef (taken join listed).fair.table

namespace Agrees

variable {query : Query} {draft : Draft}

theorem whereClause (agrees : dialect.Agrees query draft) :
    dialect.Spells (dialect.whereClause query.wheres) draft.whereClause :=
  Spells.headed agrees.wheres (by decide)

theorem conditions (agrees : dialect.Agrees query draft) :
    dialect.Spells (" AND ".intercalate
      ((query.joins.filter fun join => join.conditions ≠ []).map dialect.joinConditions))
      (draft.conditions dialect) := by
  unfold Draft.conditions
  rw [← agrees.joins]
  refine Spells.intercalate (by decide) ?_
  rw [List.forall₂_map_left_iff, List.forall₂_map_right_iff, List.forall₂_same]
  exact fun join member => (agrees.joinsFair join (List.mem_of_mem_filter member)).spells_conditions

theorem joinedWhere (agrees : dialect.Agrees query draft) :
    dialect.Spells (dialect.joinedWhere query.joins query.wheres) (draft.joinedWhere dialect) := by
  have conditions := agrees.conditions
  have behind : dialect.Spells ("WHERE " ++ _) (Filled.ofText "WHERE " ++ _) :=
    conditions.prepend (by decide)
  have wheres : query.wheres.isEmpty = true ↔ draft.wheres = [] := by
    have lengths := agrees.wheres.length_eq
    rw [clauses_eq_map, List.length_map] at lengths
    rw [List.isEmpty_iff, ← List.length_eq_zero_iff, ← List.length_eq_zero_iff, lengths]
  unfold Dialect.joinedWhere Draft.joinedWhere
  dsimp only
  by_cases none : draft.conditions dialect = []
  · rw [if_pos none, if_pos (conditions.eq_empty_iff.mpr none)]
    exact agrees.whereClause
  · rw [if_neg none, if_neg (mt conditions.eq_empty_iff.mp none)]
    by_cases empty : draft.wheres = []
    · rw [if_pos empty, if_pos (wheres.mpr empty)]
      exact behind
    · rw [if_neg empty, if_neg (mt wheres.mp empty)]
      exact (behind.between (Spells.chain agrees.wheres) (by decide)).close
        (by decide)

theorem bounded (agrees : dialect.Agrees query draft) :
    List.Forall₂ dialect.Spells
      [dialect.orderClause query.window.orders, dialect.limitClause query.window]
      (draft.bounded dialect) :=
  .cons agrees.window.orderClause (.cons agrees.window.limitClause .nil)

theorem target_eq (agrees : dialect.Agrees query draft) {table : Identifier}
    (named : query.table = some table) : draft.target dialect = dialect.tableRef table := by
  simp [Draft.target, ← agrees.table, named]

theorem update (agrees : dialect.Agrees query draft) {record : Record} {sql : String}
    (fair : ∀ entry ∈ record.entries, entry.2.Fair dialect)
    (compiled : dialect.update query record = .ok sql) :
    dialect.Spells sql (draft.update dialect record) ∧
      (dialect.vendor = .sqlite → draft.joins = []) := by
  obtain ⟨table, named, -, shape⟩ := update_eq_ok_iff.mp compiled
  have set : dialect.Spells ("SET " ++ dialect.assignments record)
      (Filled.ofText "SET " ++ Filled.assignments dialect record) :=
    (spells_assignments fair).prepend (by decide)
  have short : dialect.Silent ("UPDATE " ++ dialect.tableRef table) :=
    (silent_tableRef (agrees.tableFair table named)).prepend (by decide)
  have front : dialect.Spells
      ("UPDATE " ++ dialect.tableRef table ++ " " ++ ("SET " ++ dialect.assignments record))
      (Filled.ofText ("UPDATE " ++ dialect.tableRef table ++ " ") ++
        (Filled.ofText "SET " ++ Filled.assignments dialect record)) :=
    Spells.append (short.close (by decide)) set (.of_joint (by decide))
  have wheres := agrees.whereClause
  unfold Draft.update
  rw [agrees.target_eq named, ← agrees.joins]
  cases shape with
  | alone elsewhere single =>
      have alone := Spells.joinParts (.cons front (.cons wheres .nil))
      cases vendor : dialect.vendor with
      | mysql => exact absurd vendor elsewhere
      | sqlite => exact ⟨alone, fun _ => single⟩
      | postgres =>
          simp only [if_pos single]
          exact ⟨alone, nofun⟩
  | bounded mysql single =>
      simp only [mysql, if_pos single]
      exact ⟨Spells.joinParts (.cons short (.cons set (.cons wheres agrees.bounded))), nofun⟩
  | joined mysql several =>
      simp only [mysql, if_neg several]
      exact ⟨Spells.joinParts (.cons short (.cons (spells_joins agrees.joinsFair)
        (.cons set (.cons wheres .nil)))), nofun⟩
  | listed postgres several =>
      have tables : dialect.Silent ("FROM " ++ dialect.joinedTables query.joins) :=
        (silent_joinedTables agrees.joinsFair).prepend (by decide)
      simp only [postgres, if_neg several]
      exact ⟨Spells.joinParts (.cons front (.cons tables (.cons agrees.joinedWhere .nil))), nofun⟩

theorem delete (agrees : dialect.Agrees query draft) {sql : String}
    (compiled : dialect.delete query = .ok sql) :
    dialect.Spells sql (draft.delete dialect) ∧ (dialect.vendor = .sqlite → draft.joins = []) := by
  obtain ⟨table, named, shape⟩ := delete_eq_ok_iff.mp compiled
  have silent := silent_tableRef (agrees.tableFair table named)
  have front : dialect.Silent ("DELETE FROM " ++ dialect.tableRef table) :=
    silent.prepend (by decide)
  have rows : (draft.table.map dialect.deleteTarget).getD "" = dialect.deleteTarget table := by
    rw [← agrees.table, named]
    rfl
  have wheres := agrees.whereClause
  unfold Draft.delete
  rw [agrees.target_eq named, rows, ← agrees.joins]
  cases shape with
  | alone elsewhere single =>
      have alone := Spells.joinParts (.cons front (.cons wheres .nil))
      cases vendor : dialect.vendor with
      | mysql => exact absurd vendor elsewhere
      | sqlite => exact ⟨alone, fun _ => single⟩
      | postgres =>
          simp only [if_pos single]
          exact ⟨alone, nofun⟩
  | bounded mysql single =>
      simp only [mysql, if_pos single]
      exact ⟨Spells.joinParts (.cons front (.cons wheres agrees.bounded)), nofun⟩
  | joined mysql several =>
      have deleted : dialect.Silent ("DELETE " ++ dialect.deleteTarget table ++ " FROM " ++
          dialect.tableRef table) :=
        Silent.between
          ((silent_deleteTarget (agrees.tableFair table named)).prepend (by decide)) silent
          (by decide)
      simp only [mysql, if_neg several]
      exact ⟨Spells.joinParts (.cons deleted (.cons (spells_joins agrees.joinsFair)
        (.cons wheres .nil))), nofun⟩
  | listed postgres several =>
      have tables : dialect.Silent ("DELETE FROM " ++ dialect.tableRef table ++ " USING " ++
          dialect.joinedTables query.joins) :=
        Silent.between front (silent_joinedTables agrees.joinsFair) (by decide)
      simp only [postgres, if_neg several]
      exact ⟨Spells.joinParts (.cons tables (.cons agrees.joinedWhere .nil)), nofun⟩

end Agrees

end Dialect

end SqlToolkit
