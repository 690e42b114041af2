import SqlToolkit.Proofs.Markers.Names
/-!
Drafts: statements in which every value stands in its place from the start. Where a query keeps its
values in buckets beside the text, a draft keeps each value inside the predicate, the join, the
fragment or the branch that it was given for, so the text of a draft needs no bindings.
-/

namespace SqlToolkit

/-- A fragment with its own values in its own markers. -/
def Dialect.supply (dialect : Dialect) (sql : String) (values : List Value) : Filled :=
  (dialect.fill sql values).getD []

namespace Filled

/-! Texts put together; each function has its counterpart for texts without values -/

def join (separator : String) (texts : List Filled) : Filled :=
  (ofText separator).intercalate texts

/-- The texts with single blanks between them; empty ones are left out. -/
def joinParts (parts : List Filled) : Filled :=
  join " " (parts.filter (· ≠ []))

def chain : List (Connective × Filled) → Filled
  | [] => []
  | (_, first) :: rest =>
      join " " (first :: rest.map fun (connective, text) => ofText (connective.text ++ " ") ++ text)

def headed (word : String) (clauses : List (Connective × Filled)) : Filled :=
  if clauses = [] then [] else ofText (word ++ " ") ++ chain clauses

def enclosed (text : Filled) : Filled :=
  ofText "(" ++ text ++ ofText ")"

/-! Parts of a query that hold their values themselves -/

def operand : Operand → Filled
  | .bound value => [.slot value]
  | .verbatim sql => ofText sql

def joinTarget (dialect : Dialect) : JoinTarget → Filled
  | .column column => ofText (dialect.columnRef column)
  | .value value => operand value

def joinCondition (dialect : Dialect) (condition : JoinCondition) : Filled :=
  ofText (dialect.columnRef condition.first ++ " " ++ condition.operator ++ " ") ++
    joinTarget dialect condition.second

def joinConditions (dialect : Dialect) (join : Join) : Filled :=
  chain (join.conditions.map fun condition =>
    (condition.connective, joinCondition dialect condition))

def joinClause (dialect : Dialect) (join : Join) : Filled :=
  if join.kind = .cross ∧ join.conditions = [] then
    ofText ("CROSS JOIN " ++ dialect.tableRef join.table)
  else
    ofText (join.kind.text ++ " JOIN " ++ dialect.tableRef join.table ++ " ON ") ++
      joinConditions dialect join

def joinClauses (dialect : Dialect) (joins : List Join) : Filled :=
  join " " (joins.map (joinClause dialect))

end Filled

/-- A window whose items of order have their values in place. -/
structure DraftWindow where
  orders : List Filled := []
  limit : Option Nat := none
  offset : Option Nat := none

namespace DraftWindow

def bounds (window : DraftWindow) : Window :=
  { limit := window.limit, offset := window.offset }

def orderClause (window : DraftWindow) : Filled :=
  if window.orders = [] then []
  else Filled.ofText "ORDER BY " ++ Filled.join ", " window.orders

def clauses (dialect : Dialect) (window : DraftWindow) : List Filled :=
  [window.orderClause, Filled.ofText (dialect.limitClause window.bounds),
    Filled.ofText (Dialect.offsetClause window.bounds)]

def values (window : DraftWindow) : List Value :=
  window.orders.flatMap Filled.values

end DraftWindow

/-- The parts of a query that carry values, with the values in place, and the other parts as a query
has them. -/
structure Draft where
  columns : List Filled := []
  distinct : Bool := false
  table : Option Identifier := none
  joins : List Join := []
  wheres : List (Connective × Filled) := []
  groups : List Identifier := []
  havings : List (Connective × Filled) := []
  window : DraftWindow := {}
  /-- The branches of the union, each behind its keyword. -/
  branches : List Filled := []
  unionWindow : DraftWindow := {}
  lock : Option Lock := none
  aggregate : Option Aggregate := none

namespace Draft

variable (dialect : Dialect)

/-! The text of a select -/

def projection (draft : Draft) : Filled :=
  match draft.aggregate with
  | some aggregate => Filled.ofText (dialect.aggregate draft.distinct aggregate)
  | none =>
      let select := if draft.distinct then "SELECT DISTINCT" else "SELECT"
      if draft.columns = [] then Filled.ofText (select ++ " *")
      else Filled.ofText (select ++ " ") ++ Filled.join ", " draft.columns

/-- The statement without its unions and its lock. -/
def main (draft : Draft) : Filled :=
  Filled.joinParts ([draft.projection dialect, Filled.ofText (dialect.fromClause draft.table),
    Filled.joinClauses dialect draft.joins, Filled.headed "WHERE" draft.wheres,
    Filled.ofText (dialect.groupClause draft.groups), Filled.headed "HAVING" draft.havings] ++
    draft.window.clauses dialect)

def unionSide (text : Filled) : Filled :=
  match dialect.vendor with
  | .mysql => text.enclosed
  | _ => text

def united (draft : Draft) : Filled :=
  if draft.branches = [] then draft.main dialect
  else
    Filled.joinParts [unionSide dialect (draft.main dialect),
      Filled.joinParts (draft.branches ++ draft.unionWindow.clauses dialect)]

def select (draft : Draft) : Filled :=
  match draft.lock with
  | some lock =>
      Filled.joinParts [draft.united dialect, Filled.ofText (dialect.lockClause lock)]
  | none => draft.united dialect

/-! The values of the parts -/

def columnValues (draft : Draft) : List Value :=
  draft.columns.flatMap Filled.values

def joinValues (draft : Draft) : List Value :=
  draft.joins.flatMap Join.bindings

def whereValues (draft : Draft) : List Value :=
  draft.wheres.flatMap fun clause => clause.2.values

def havingValues (draft : Draft) : List Value :=
  draft.havings.flatMap fun clause => clause.2.values

def unionValues (draft : Draft) : List Value :=
  draft.branches.flatMap Filled.values ++ draft.unionWindow.values

end Draft

/-! The values of texts put together -/

namespace Filled

@[simp] theorem values_nil : values [] = [] :=
  rfl

@[simp] theorem values_operand (value : Operand) : (operand value).values = value.bindings := by
  cases value with
  | bound value => rfl
  | verbatim sql => exact values_ofText sql

theorem join_cons_cons (separator : String) (first second : Filled) (rest : List Filled) :
    join separator (first :: second :: rest) =
      first ++ ofText separator ++ join separator (second :: rest) :=
  List.intercalate_cons_cons

theorem values_join (separator : String) (texts : List Filled) :
    (join separator texts).values = texts.flatMap values := by
  induction texts with
  | nil => rfl
  | cons first rest ih =>
      cases rest with
      | nil => simp [join]
      | cons next others =>
          rw [join_cons_cons, values_append, values_append, values_ofText, ih]
          simp

theorem values_joinParts (parts : List Filled) :
    (joinParts parts).values = parts.flatMap values := by
  rw [joinParts, values_join]
  induction parts with
  | nil => rfl
  | cons first rest ih =>
      by_cases empty : first = []
      · simpa [empty] using ih
      · simpa [empty] using ih

theorem values_chain (clauses : List (Connective × Filled)) :
    (chain clauses).values = clauses.flatMap fun clause => clause.2.values := by
  cases clauses with
  | nil => rfl
  | cons first rest =>
      rw [chain, values_join, List.flatMap_cons, List.flatMap_map, List.flatMap_cons]
      simp

theorem values_headed (word : String) (clauses : List (Connective × Filled)) :
    (headed word clauses).values = clauses.flatMap fun clause => clause.2.values := by
  by_cases empty : clauses = []
  · simp [headed, empty]
  · rw [headed, if_neg empty, values_append, values_ofText, values_chain, List.nil_append]

@[simp] theorem values_enclosed (text : Filled) : text.enclosed.values = text.values := by
  simp [enclosed]

theorem values_joinConditions (dialect : Dialect) (join : Join) :
    (joinConditions dialect join).values = join.bindings := by
  have target : ∀ right : JoinTarget, (joinTarget dialect right).values = right.bindings := by
    intro right
    cases right with
    | column column => exact values_ofText _
    | value operand => exact values_operand operand
  rw [joinConditions, values_chain, List.flatMap_map, Join.bindings]
  simp [joinCondition, target]

theorem values_joinClauses (dialect : Dialect) (joins : List Join) :
    (joinClauses dialect joins).values = joins.flatMap Join.bindings := by
  have single : ∀ join : Join, (joinClause dialect join).values = join.bindings := by
    intro join
    by_cases bare : join.kind = .cross ∧ join.conditions = []
    · rw [joinClause, if_pos bare, values_ofText, Join.bindings, bare.2]
      rfl
    · rw [joinClause, if_neg bare, values_append, values_ofText, values_joinConditions]
      rfl
  rw [joinClauses, values_join, List.flatMap_map]
  simp [single]

end Filled

namespace DraftWindow

theorem values_orderClause (window : DraftWindow) : window.orderClause.values = window.values := by
  by_cases empty : window.orders = []
  · simp [orderClause, values, empty]
  · simp [orderClause, values, empty, Filled.values_join]

theorem values_clauses (dialect : Dialect) (window : DraftWindow) :
    (window.clauses dialect).flatMap Filled.values = window.values := by
  simp [clauses, values_orderClause]

end DraftWindow

namespace Draft

variable {dialect : Dialect}

theorem values_projection {draft : Draft} (plain : draft.aggregate = none) :
    (draft.projection dialect).values = draft.columnValues := by
  by_cases empty : draft.columns = []
  · simp [projection, plain, empty, columnValues]
  · simp [projection, plain, empty, columnValues, Filled.values_join]

theorem values_main (draft : Draft) :
    (draft.main dialect).values =
      (draft.projection dialect).values ++ draft.joinValues ++ draft.whereValues ++
        draft.havingValues ++ draft.window.values := by
  rw [main, Filled.values_joinParts, List.flatMap_append, DraftWindow.values_clauses]
  simp [Filled.values_headed, Filled.values_joinClauses, joinValues, whereValues, havingValues]

theorem values_unionSide (text : Filled) : (unionSide dialect text).values = text.values := by
  cases vendor : dialect.vendor <;> simp [unionSide, vendor]

theorem values_select (draft : Draft)
    (placed : draft.branches = [] → draft.unionWindow.values = []) :
    (draft.select dialect).values = (draft.main dialect).values ++ draft.unionValues := by
  have united : (draft.united dialect).values =
      (draft.main dialect).values ++ draft.unionValues := by
    by_cases single : draft.branches = []
    · simp [Draft.united, single, unionValues, placed single]
    · rw [Draft.united, if_neg single, Filled.values_joinParts]
      simp [values_unionSide, Filled.values_joinParts, DraftWindow.values_clauses, unionValues]
  unfold select
  split
  · simp [Filled.values_joinParts, united]
  · exact united

end Draft

end SqlToolkit
