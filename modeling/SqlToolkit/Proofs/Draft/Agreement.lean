import SqlToolkit.Proofs.Draft.Spelling
/-!
Agreement of a query with a draft: part by part, what the dialect writes for the query spells what
the draft holds. The select statements of the two then agree as well.
-/

namespace SqlToolkit

variable {dialect : Dialect}

namespace Dialect

/-! Predicates -/

theorem spells_comparison {column : Identifier} {operator : String} {right : Operand}
    (left : column.Fair dialect) (known : dialect.vendor.knowsOperator operator = true)
    (fair : right.Fair dialect) :
    dialect.Spells (dialect.columnRef column ++ " " ++ operator ++ " " ++ dialect.parameter right)
      (Filled.comparison dialect column operator right) := by
  have front : dialect.Silent (dialect.columnRef column ++ " " ++ operator ++ " ") :=
    ((silent_columnRef left).between (inert_operator known).silent (by decide)).close (by decide)
  exact Spells.append front (spells_parameter fair) (.of_joint (by decide))

theorem silent_nullTest {negated : Bool} {column : Identifier} (fair : column.Fair dialect) :
    dialect.Spells (dialect.columnRef column ++ " IS " ++ negation negated ++ "NULL")
      (Filled.nullTest dialect negated column) := by
  have word : dialect.Silent (negation negated) := Inert.silent (by cases negated <;> decide)
  exact Silent.close ((silent_columnRef fair).between word (by decide))
    (by decide)

theorem silent_negated {negated : Bool} {column : Identifier} {word : String}
    (fair : column.Fair dialect) (joint : Joint word) :
    dialect.Silent (dialect.columnRef column ++ " " ++ negation negated ++ word) := by
  have middle : dialect.Silent (negation negated) := Inert.silent (by cases negated <;> decide)
  exact Silent.close ((silent_columnRef fair).between middle (by decide)) joint

theorem spells_membership {negated : Bool} {column : Identifier} {operands : List Operand}
    (fair : column.Fair dialect) (each : ∀ operand ∈ operands, operand.Fair dialect) :
    dialect.Spells (dialect.predicate (.inList negated column operands))
      (Filled.membership dialect negated column operands) := by
  unfold predicate Filled.membership
  by_cases empty : operands = []
  · rw [if_pos empty, if_pos empty]
    exact Inert.silent (by cases negated <;> decide)
  · rw [if_neg empty, if_neg empty]
    have list : List.Forall₂ dialect.Spells (operands.map dialect.parameter)
        (operands.map Filled.operand) := by
      rw [List.forall₂_map_left_iff, List.forall₂_map_right_iff, List.forall₂_same]
      exact fun operand member => spells_parameter (each operand member)
    refine Spells.close (Spells.append (silent_negated fair (by decide)) ?_
      (.of_joint (by decide))) (by decide)
    exact Spells.intercalate (by decide) list

theorem spells_range {negated : Bool} {column : Identifier} {low high : Operand}
    (fair : column.Fair dialect) (lowFair : low.Fair dialect) (highFair : high.Fair dialect) :
    dialect.Spells (dialect.predicate (.between negated column low high))
      (Filled.range dialect negated column low high) := by
  unfold predicate
  have front : dialect.Spells
      (dialect.columnRef column ++ " " ++ negation negated ++ "BETWEEN " ++ dialect.parameter low)
      (Filled.ofText (dialect.columnRef column ++ " " ++ negation negated ++ "BETWEEN ") ++
        Filled.operand low) :=
    Spells.append (silent_negated fair (by decide)) (spells_parameter lowFair)
      (.of_joint (by decide))
  exact front.between (spells_parameter highFair) (by decide)

/-- A format of SQLite holds a percent sign, but within quotes. -/
theorem silent_datePart {part : DatePart} {column : String} (silent : dialect.Silent column) :
    dialect.Silent (dialect.datePart part column) := by
  unfold datePart
  cases vendor : dialect.vendor with
  | sqlite =>
      have apart : ∀ left right : String, Apart (left ++ "', ") right :=
        fun left right => .of_word (by decide) (by decide)
      have front : ∀ format ∈ ["%Y-%m-%d", "%d", "%m", "%Y"],
          dialect.Silent ("strftime('" ++ format ++ "', ") := by
        obtain ⟨_, tablePrefix, marker⟩ := dialect
        cases vendor
        intro format listed
        simp only [List.mem_cons, List.not_mem_nil, or_false] at listed
        obtain rfl | rfl | rfl | rfl := listed <;> cases marker <;> exact ⟨rfl, rfl⟩
      refine Silent.close (Silent.append (front _ ?_) silent (apart _ _)) (by decide)
      cases part <;> simp
  | mysql =>
      cases part <;>
        exact Silent.close (Silent.prepend (by decide) silent) (by decide)
  | postgres =>
      cases part with
      | date => exact Silent.close silent (by decide)
      | _ => exact Silent.close (Silent.prepend (by decide) silent) (by decide)

theorem spells_dateComparison {part : DatePart} {column : Identifier} {operator : String}
    {right : Operand} (left : column.Fair dialect)
    (known : dialect.vendor.knowsOperator operator = true) (fair : right.Fair dialect) :
    dialect.Spells (dialect.predicate (.compareDate part column operator right))
      (Filled.dateComparison dialect part column operator right) := by
  unfold predicate
  have front : dialect.Silent
      (dialect.datePart part (dialect.columnRef column) ++ " " ++ operator ++ " ") :=
    ((silent_datePart (silent_columnRef left)).between (inert_operator known).silent
      (by decide)).close (by decide)
  exact Spells.append front (spells_parameter fair) (.of_joint (by decide))

/-! Joins -/

/-- A join that a builder takes: its conditions have no fault, and its fragments are fair. -/
structure Joins (dialect : Dialect) (join : Join) : Prop where
  fair : join.Fair dialect
  sound : Builder.conditionsFault dialect.vendor join.conditions = none

theorem known_of_conditionsFault {conditions : List JoinCondition}
    (sound : Builder.conditionsFault dialect.vendor conditions = none) :
    ∀ condition ∈ conditions, dialect.vendor.knowsOperator condition.operator = true := by
  induction conditions with
  | nil => simp
  | cons first rest ih =>
      unfold Builder.conditionsFault at sound
      split at sound
      · cases sound
      · split at sound
        · rename_i known
          intro condition member
          rcases List.mem_cons.mp member with rfl | member
          · exact known
          · exact ih sound condition member
        · cases sound

theorem spells_joinCondition {condition : JoinCondition} (fair : condition.Fair dialect)
    (known : dialect.vendor.knowsOperator condition.operator = true) :
    dialect.Spells (dialect.joinCondition condition) (Filled.joinCondition dialect condition) := by
  have front : dialect.Silent
      (dialect.columnRef condition.first ++ " " ++ condition.operator ++ " ") :=
    ((silent_columnRef fair.first).between (inert_operator known).silent (by decide)).close
      (by decide)
  have target : dialect.Spells (dialect.joinTarget condition.second)
      (Filled.joinTarget dialect condition.second) := by
    have right := fair.second
    cases second : condition.second with
    | column column =>
        rw [second] at right
        exact silent_columnRef right
    | value operand =>
        rw [second] at right
        exact spells_parameter right
  exact Spells.append front target (.of_joint (by decide))

theorem Joins.spells_conditions {join : Join} (taken : dialect.Joins join) :
    dialect.Spells (dialect.joinConditions join) (Filled.joinConditions dialect join) := by
  refine Spells.chain ?_
  rw [List.forall₂_map_left_iff, List.forall₂_map_right_iff, List.forall₂_same]
  intro condition member
  exact ⟨rfl, spells_joinCondition (taken.fair.conditions condition member)
    (known_of_conditionsFault taken.sound condition member)⟩

theorem Joins.spells {join : Join} (taken : dialect.Joins join) :
    dialect.Spells (dialect.join join) (Filled.joinClause dialect join) := by
  have table := silent_tableRef taken.fair.table
  unfold Dialect.join Filled.joinClause
  by_cases bare : join.kind = .cross ∧ join.conditions = []
  · simp only [if_pos bare]
    exact Silent.prepend (by decide) table
  · simp only [if_neg bare]
    have front : dialect.Silent (join.kind.text ++ " JOIN " ++ dialect.tableRef join.table) :=
      Silent.prepend (by cases join.kind <;> decide) table
    exact Spells.append (front.close (by decide)) taken.spells_conditions
      (.of_joint (by decide))

theorem spells_joins {joins : List Join} (taken : ∀ join ∈ joins, dialect.Joins join) :
    dialect.Spells (dialect.joins joins) (Filled.joinClauses dialect joins) := by
  refine Spells.intercalate (by decide) ?_
  rw [List.forall₂_map_left_iff, List.forall₂_map_right_iff, List.forall₂_same]
  exact fun join member => (taken join member).spells

/-! The functions of the dialect on lists, piece by piece -/

theorem clauses_eq_map (wheres : List Clause) :
    dialect.clauses wheres =
      wheres.map fun clause => (clause.connective, dialect.predicate clause.predicate) := by
  induction wheres with
  | nil => simp [clauses]
  | cons first rest ih =>
      obtain ⟨connective, predicate⟩ := first
      simp [clauses, ih]

@[simp] theorem clauses_append (left right : List Clause) :
    dialect.clauses (left ++ right) = dialect.clauses left ++ dialect.clauses right := by
  simp [clauses_eq_map]

@[simp] theorem branches_append (left right : List Branch) :
    dialect.branches (left ++ right) = dialect.branches left ++ dialect.branches right := by
  induction left with
  | nil => simp [branches]
  | cons first rest ih =>
      obtain ⟨query, keepsDuplicates⟩ := first
      simp [branches, ih]

/-! Agreement -/

structure WindowAgrees (dialect : Dialect) (window : Window) (draft : DraftWindow) : Prop where
  orders : List.Forall₂ dialect.Spells (window.orders.map dialect.order) draft.orders
  limit : window.limit = draft.limit
  offset : window.offset = draft.offset

/-- What the dialect writes for the parts of a query spells the parts of a draft. -/
structure Agrees (dialect : Dialect) (query : Query) (draft : Draft) : Prop where
  columns : List.Forall₂ dialect.Spells (query.columns.map dialect.columnRef) draft.columns
  distinct : query.distinct = draft.distinct
  table : query.table = draft.table
  tableFair : ∀ table ∈ query.table, table.Fair dialect
  joins : query.joins = draft.joins
  joinsFair : ∀ join ∈ query.joins, dialect.Joins join
  wheres : List.Forall₂ dialect.ChainSpells (dialect.clauses query.wheres) draft.wheres
  groups : query.groups = draft.groups
  groupsFair : ∀ column ∈ query.groups, column.Fair dialect
  havings : List.Forall₂ dialect.ChainSpells (dialect.clauses query.havings) draft.havings
  window : dialect.WindowAgrees query.window draft.window
  branches : List.Forall₂ dialect.Spells (dialect.branches query.unions) draft.branches
  unionWindow : dialect.WindowAgrees query.unionWindow draft.unionWindow
  lock : query.lock = draft.lock
  lockFair : ∀ lock ∈ query.lock, lock.Fair dialect
  aggregate : query.aggregate = draft.aggregate
  aggregateSilent : ∀ aggregate ∈ query.aggregate,
    dialect.Silent (dialect.aggregate query.distinct aggregate)

theorem Agrees.empty : dialect.Agrees {} {} where
  columns := .nil
  distinct := rfl
  table := rfl
  tableFair := by simp
  joins := rfl
  joinsFair := by simp
  wheres := .nil
  groups := rfl
  groupsFair := by simp
  havings := .nil
  window := ⟨.nil, rfl, rfl⟩
  branches := .nil
  unionWindow := ⟨.nil, rfl, rfl⟩
  lock := rfl
  lockFair := by simp
  aggregate := rfl
  aggregateSilent := by simp

theorem WindowAgrees.orderClause {window : Window} {draft : DraftWindow}
    (agrees : dialect.WindowAgrees window draft) :
    dialect.Spells (dialect.orderClause window.orders) draft.orderClause := by
  have each := agrees.orders
  unfold Dialect.orderClause DraftWindow.orderClause
  generalize draft.orders = filled at each ⊢
  cases orders : window.orders with
  | nil =>
      rw [orders] at each
      cases each
      exact silent_empty
  | cons first rest =>
      rw [orders] at each
      cases each with
      | cons head tail =>
          refine Spells.prepend (by decide) ?_
          exact Spells.intercalate (by decide) (.cons head tail)

theorem WindowAgrees.limitClause {window : Window} {draft : DraftWindow}
    (agrees : dialect.WindowAgrees window draft) :
    dialect.Spells (dialect.limitClause window)
      (Filled.ofText (dialect.limitClause draft.bounds)) := by
  have same : dialect.limitClause window = dialect.limitClause draft.bounds := by
    simp only [Dialect.limitClause, DraftWindow.bounds, agrees.limit, agrees.offset]
  rw [same]
  unfold Dialect.limitClause
  split
  · exact Silent.prepend (by decide) (inert_toString _).silent
  · exact Inert.silent (by decide)
  · exact Inert.silent (by decide)
  · exact Inert.silent (by decide)

theorem WindowAgrees.clauses {window : Window} {draft : DraftWindow}
    (agrees : dialect.WindowAgrees window draft) :
    List.Forall₂ dialect.Spells (dialect.windowClauses window) (draft.clauses dialect) := by
  have skipped :
      dialect.Spells (offsetClause window) (Filled.ofText (offsetClause draft.bounds)) := by
    have same : offsetClause window = offsetClause draft.bounds := by
      simp only [offsetClause, DraftWindow.bounds, agrees.offset]
    rw [same]
    unfold offsetClause
    split
    · exact Silent.prepend (by decide) (inert_toString _).silent
    · exact Inert.silent (by decide)
  exact .cons agrees.orderClause (.cons agrees.limitClause (.cons skipped .nil))

namespace Agrees

variable {query : Query} {draft : Draft}

theorem projection (agrees : dialect.Agrees query draft) :
    dialect.Spells (dialect.projection query.distinct query.columns query.aggregate)
      (draft.projection dialect) := by
  unfold Dialect.projection Draft.projection
  rw [← agrees.aggregate, ← agrees.distinct]
  cases counted : query.aggregate with
  | some aggregate => exact agrees.aggregateSilent aggregate counted
  | none =>
      have each := agrees.columns
      simp only [selectList]
      generalize draft.columns = filled at each ⊢
      cases columns : query.columns with
      | nil =>
          rw [columns] at each
          cases each
          rw [if_pos rfl, if_pos rfl]
          exact Inert.silent (by cases query.distinct <;> decide)
      | cons first rest =>
          rw [columns] at each
          cases each with
          | cons head tail =>
              refine Spells.prepend (by cases query.distinct <;> decide) ?_
              exact Spells.intercalate (by decide) (.cons head tail)

theorem main (agrees : dialect.Agrees query draft) :
    dialect.Spells (joinParts ([dialect.projection query.distinct query.columns query.aggregate,
      dialect.fromClause query.table, dialect.joins query.joins, dialect.whereClause query.wheres,
      dialect.groupClause query.groups, headed "HAVING" (dialect.clauses query.havings)] ++
      dialect.windowClauses query.window)) (draft.main dialect) := by
  have source : dialect.Silent (dialect.fromClause query.table) := by
    cases named : query.table with
    | none => exact silent_empty
    | some table =>
        exact Silent.prepend (by decide) (silent_tableRef (agrees.tableFair table named))
  have joins :
      dialect.Spells (dialect.joins query.joins) (Filled.joinClauses dialect draft.joins) := by
    rw [← agrees.joins]
    exact spells_joins agrees.joinsFair
  have groups : dialect.Silent (dialect.groupClause query.groups) := by
    unfold groupClause
    split
    · exact silent_empty
    · exact Silent.prepend (by decide) (silent_columnRefs agrees.groupsFair)
  refine Spells.joinParts (List.rel_append ?_ agrees.window.clauses)
  rw [← agrees.table, ← agrees.groups]
  exact .cons agrees.projection (.cons source (.cons joins (.cons
    (Spells.headed agrees.wheres (by decide)) (.cons groups (.cons
      (Spells.headed agrees.havings (by decide)) .nil)))))

end Agrees

theorem Spells.unionSide {text : String} {filled : Filled} (spelled : dialect.Spells text filled) :
    dialect.Spells (dialect.unionSide text) (Draft.unionSide dialect filled) := by
  unfold Dialect.unionSide Draft.unionSide
  cases dialect.vendor with
  | mysql => exact spelled.enclosed
  | _ => exact spelled

theorem silent_lockClause {lock : Lock} (fair : lock.Fair dialect) :
    dialect.Silent (dialect.lockClause lock) := by
  unfold lockClause
  split
  · exact Supplied.silent fair
  all_goals exact Inert.silent (by decide)

theorem Agrees.united {query : Query} {draft : Draft} {main : String}
    (agrees : dialect.Agrees query draft) (spelled : dialect.Spells main (draft.main dialect)) :
    dialect.Spells (dialect.united main (dialect.branches query.unions) query.unionWindow)
      (draft.united dialect) := by
  have each := agrees.branches
  unfold Dialect.united Draft.united
  generalize draft.branches = filled at each ⊢
  cases branches : dialect.branches query.unions with
  | nil =>
      rw [branches] at each
      cases each
      exact spelled
  | cons first rest =>
      rw [branches] at each
      cases each with
      | cons head tail =>
          have behind := Spells.joinParts
            (List.rel_append (.cons head tail) agrees.unionWindow.clauses)
          exact Spells.joinParts (.cons spelled.unionSide (.cons behind .nil))

theorem Agrees.select {query : Query} {draft : Draft} (agrees : dialect.Agrees query draft) :
    dialect.Spells (dialect.select query) (draft.select dialect) := by
  have united := agrees.united agrees.main
  have same : dialect.select query = dialect.locked (dialect.united
      (joinParts ([dialect.projection query.distinct query.columns query.aggregate,
        dialect.fromClause query.table, dialect.joins query.joins,
        dialect.whereClause query.wheres, dialect.groupClause query.groups,
        headed "HAVING" (dialect.clauses query.havings)] ++ dialect.windowClauses query.window))
      (dialect.branches query.unions) query.unionWindow) query.lock := by
    cases query
    rw [Dialect.select]
    rfl
  rw [same]
  unfold locked Draft.select
  rw [← agrees.lock]
  cases locks : query.lock with
  | none => exact united
  | some lock =>
      have behind := silent_lockClause (agrees.lockFair lock locks)
      exact Spells.joinParts (.cons united (.cons behind .nil))

end Dialect

end SqlToolkit
