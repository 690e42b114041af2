import SqlToolkit.Proofs.Changes.Basic
import SqlToolkit.Proofs.Markers.Basic
import SqlToolkit.Proofs.Operators.Stored
import SqlToolkit.Query.Write
/-!
Where the operators of a query are written. The text of a statement is one outline with the
operators in their places: with other operators in the query, these stand in the same places, and
the rest of the text stays.
-/

namespace SqlToolkit

/-! Other operators in the same query -/

section Replaced

variable (f : String → String)

def JoinCondition.mapOperators (condition : JoinCondition) : JoinCondition :=
  { condition with operator := f condition.operator }

def Join.mapOperators (join : Join) : Join :=
  { join with conditions := join.conditions.map (JoinCondition.mapOperators f) }

mutual

def Query.mapOperators : Query → Query
  | ⟨columns, distinct, table, joins, wheres, groups, havings, window, unions, unionWindow, lock,
      aggregate⟩ =>
      ⟨columns, distinct, table, joins.map (Join.mapOperators f), Clause.mapOperators wheres, groups,
        Clause.mapOperators havings, window, Branch.mapOperators unions, unionWindow, lock,
        aggregate⟩

def Branch.mapOperators : List Branch → List Branch
  | [] => []
  | ⟨query, keepsDuplicates⟩ :: rest =>
      ⟨query.mapOperators, keepsDuplicates⟩ :: Branch.mapOperators rest

def Clause.mapOperators : List Clause → List Clause
  | [] => []
  | ⟨connective, predicate⟩ :: rest =>
      ⟨connective, predicate.mapOperators⟩ :: Clause.mapOperators rest

def Predicate.mapOperators : Predicate → Predicate
  | .compare column operator operand => .compare column (f operator) operand
  | .compareColumns first operator second => .compareColumns first (f operator) second
  | .group members => .group (Clause.mapOperators members)
  | .compareQuery column operator query => .compareQuery column (f operator) query.mapOperators
  | .inList negated column operands => .inList negated column operands
  | .inQuery negated column query => .inQuery negated column query.mapOperators
  | .isNull negated column => .isNull negated column
  | .between negated column low high => .between negated column low high
  | .exists negated query => .exists negated query.mapOperators
  | .compareDate part column operator operand => .compareDate part column (f operator) operand
  | .raw sql => .raw sql

end

end Replaced

/-! Outlines: texts in which the places of the operators are known -/

/-- The text of an outline whose operators are written as `f` has them. -/
def outlineText (f : String → String) (outline : List (Piece String)) : String :=
  String.ofList (outline.flatMap fun
    | .char c => [c]
    | .slot operator => (f operator).toList)

/-- A text that depends on how operators are written has the operators in the places of one outline.
It is empty either for all ways to write them or for none. -/
def Writes (operators : List String) (text : (String → String) → String) : Prop :=
  ∃ outline : List (Piece String), outline.filterMap Piece.content? = operators ∧
    (outline = [] ∨ ∃ c, .char c ∈ outline) ∧ ∀ f, text f = outlineText f outline

theorem outlineText_append (f : String → String) (first second : List (Piece String)) :
    outlineText f (first ++ second) = outlineText f first ++ outlineText f second := by
  rw [outlineText, List.flatMap_append, String.ofList_append]
  rfl

theorem outlineText_chars (f : String → String) (sql : String) :
    outlineText f (sql.toList.map .char) = sql := by
  rw [outlineText, List.flatMap_map, List.flatMap_singleton', String.ofList_toList]

namespace Writes

variable {operators others : List String} {text other : (String → String) → String}

theorem plain (sql : String) : Writes [] fun _ => sql := by
  refine ⟨sql.toList.map .char, ?_, ?_, fun f => (outlineText_chars f sql).symm⟩
  · rw [List.filterMap_map]
    exact List.filterMap_eq_nil_iff.mpr fun _ _ => rfl
  · cases sql.toList with
    | nil => exact .inl rfl
    | cons c rest => exact .inr ⟨c, List.mem_cons_self⟩

theorem operator (name : String) : Writes [name] fun f => " " ++ f name := by
  refine ⟨[.char ' ', .slot name], rfl, .inr ⟨' ', List.mem_cons_self⟩, fun f => ?_⟩
  rw [outlineText, List.flatMap_cons, List.flatMap_singleton, String.ofList_append,
    String.ofList_toList]

theorem append (left : Writes operators text) (right : Writes others other) :
    Writes (operators ++ others) fun f => text f ++ other f := by
  obtain ⟨first, contents, solid, spelled⟩ := left
  obtain ⟨second, contents', solid', spelled'⟩ := right
  refine ⟨first ++ second, ?_, ?_, fun f => ?_⟩
  · rw [List.filterMap_append, contents, contents']
  · rcases solid with rfl | ⟨c, member⟩
    · exact solid'
    · exact .inr ⟨c, List.mem_append_left _ member⟩
  · rw [outlineText_append, ← spelled, ← spelled']

theorem prepend (sql : String) (right : Writes operators text) :
    Writes operators fun f => sql ++ text f :=
  (plain sql).append right

theorem follow (left : Writes operators text) (sql : String) :
    Writes operators fun f => text f ++ sql := by
  have added := left.append (plain sql)
  rwa [List.append_nil] at added

theorem congr (writes : Writes operators text) (same : ∀ f, other f = text f) :
    Writes operators other := by
  rwa [show other = text from funext same]

/-- One operator between two texts. -/
theorem comparison (left name right : String) :
    Writes [name] fun f => left ++ " " ++ f name ++ right :=
  (((operator name).prepend left).follow right).congr fun f => by
    rw [← String.append_assoc]

theorem eq_empty_iff (writes : Writes operators text) (f g : String → String) :
    text f = "" ↔ text g = "" := by
  obtain ⟨outline, -, solid, spelled⟩ := writes
  have empty : ∀ f, text f = "" ↔ outline = [] := by
    intro f
    rw [spelled, outlineText, String.ofList_eq_empty_iff]
    constructor
    · intro none
      rcases solid with empty | ⟨c, member⟩
      · exact empty
      · have missing := List.flatMap_eq_nil_iff.mp none _ member
        cases missing
    · rintro rfl
      rfl
  rw [empty f, empty g]

/-- An empty text has no operators. -/
theorem operators_of_empty (writes : Writes operators text) {f : String → String}
    (empty : text f = "") : operators = [] := by
  obtain ⟨outline, contents, solid, spelled⟩ := writes
  rw [spelled, outlineText, String.ofList_eq_empty_iff] at empty
  rcases solid with rfl | ⟨c, member⟩
  · exact contents.symm
  · have missing := List.flatMap_eq_nil_iff.mp empty _ member
    cases missing

end Writes

/-! Lists of texts -/

inductive WritesEach : List String → ((String → String) → List String) → Prop where
  | nil : WritesEach [] fun _ => []
  | cons {operators others : List String} {text : (String → String) → String}
      {texts : (String → String) → List String} (first : Writes operators text)
      (rest : WritesEach others texts) :
      WritesEach (operators ++ others) fun f => text f :: texts f

namespace WritesEach

variable {operators others : List String} {text : (String → String) → String}
  {texts other : (String → String) → List String}

theorem plain (texts : List String) : WritesEach [] fun _ => texts := by
  induction texts with
  | nil => exact .nil
  | cons first rest ih => exact .cons (.plain first) ih

theorem append (left : WritesEach operators texts) (right : WritesEach others other) :
    WritesEach (operators ++ others) fun f => texts f ++ other f := by
  induction left with
  | nil => exact right
  | cons first rest ih =>
      rw [List.append_assoc]
      exact .cons first ih

/-- One text that holds operators among others that hold none. -/
theorem among (writes : Writes operators text) (before after : List String) :
    WritesEach operators fun f => before ++ text f :: after := by
  have behind := WritesEach.cons writes (.plain after)
  rw [List.append_nil] at behind
  exact (WritesEach.plain before).append behind

theorem intercalate (each : WritesEach operators texts) (separator : String) :
    Writes operators fun f => separator.intercalate (texts f) := by
  induction each with
  | nil => exact .plain ""
  | cons first rest ih =>
      cases rest with
      | nil =>
          rw [List.append_nil]
          exact first.congr fun f => String.intercalate_singleton
      | cons second others =>
          exact ((first.follow separator).append ih).congr fun f =>
            String.intercalate_cons_cons

/-- Which texts are left out as empty does not depend on the operators. -/
theorem filter (each : WritesEach operators texts) :
    WritesEach operators fun f => (texts f).filter (· ≠ "") := by
  induction each with
  | nil => exact .nil
  | @cons own _ text texts first rest ih =>
      by_cases empty : text id = ""
      · have dropped : (fun f => (text f :: texts f).filter (· ≠ "")) =
            fun f => (texts f).filter (· ≠ "") := by
          funext f
          exact List.filter_cons_of_neg (by simpa using (first.eq_empty_iff f id).mpr empty)
        rw [dropped, first.operators_of_empty empty]
        exact ih
      · have taken : (fun f => (text f :: texts f).filter (· ≠ "")) =
            fun f => text f :: (texts f).filter (· ≠ "") := by
          funext f
          exact List.filter_cons_of_pos (by simpa using mt (first.eq_empty_iff f id).mp empty)
        rw [taken]
        exact .cons first ih

theorem joinParts (each : WritesEach operators texts) :
    Writes operators fun f => SqlToolkit.joinParts (texts f) :=
  each.filter.intercalate " "

end WritesEach

/-! Lists of predicates -/

inductive WritesClauses : List String → ((String → String) → List (Connective × String)) → Prop where
  | nil : WritesClauses [] fun _ => []
  | cons {operators others : List String} {text : (String → String) → String}
      {clauses : (String → String) → List (Connective × String)} (connective : Connective)
      (first : Writes operators text) (rest : WritesClauses others clauses) :
      WritesClauses (operators ++ others) fun f => (connective, text f) :: clauses f

namespace WritesClauses

variable {operators : List String} {clauses : (String → String) → List (Connective × String)}

theorem linked (writes : WritesClauses operators clauses) :
    WritesEach operators fun f =>
      (clauses f).map fun clause => clause.1.text ++ " " ++ clause.2 := by
  induction writes with
  | nil => exact .nil
  | cons connective first rest ih => exact .cons (first.prepend (connective.text ++ " ")) ih

theorem chain (writes : WritesClauses operators clauses) :
    Writes operators fun f => SqlToolkit.chain (clauses f) := by
  cases writes with
  | nil => exact .plain ""
  | cons connective first rest => exact (WritesEach.cons first rest.linked).intercalate " "

theorem headed (writes : WritesClauses operators clauses) (word : String) :
    Writes operators fun f => SqlToolkit.headed word (clauses f) := by
  have chained := writes.chain.prepend (word ++ " ")
  cases writes with
  | nil => exact .plain ""
  | cons connective first rest => exact chained

end WritesClauses

namespace Dialect

variable (dialect : Dialect)

/-! Joins -/

theorem writes_joinConditions (join : Join) :
    Writes (join.conditions.map JoinCondition.operator) fun f =>
      dialect.joinConditions (join.mapOperators f) := by
  have clauses : ∀ conditions : List JoinCondition,
      WritesClauses (conditions.map JoinCondition.operator) fun f =>
        (conditions.map (JoinCondition.mapOperators f)).map fun condition =>
          (condition.connective, dialect.joinCondition condition) := by
    intro conditions
    induction conditions with
    | nil => exact .nil
    | cons first rest ih =>
        have text := (Writes.comparison (dialect.columnRef first.first) first.operator " ").follow
          (dialect.joinTarget first.second)
        exact .cons first.connective text ih
  exact (clauses join.conditions).chain

theorem writes_join (join : Join) :
    Writes (join.conditions.map JoinCondition.operator) fun f =>
      dialect.join (join.mapOperators f) := by
  have bare : ∀ f, (join.mapOperators f).conditions = [] ↔ join.conditions = [] :=
    fun f => List.map_eq_nil_iff
  by_cases crossed : join.kind = .cross ∧ join.conditions = []
  · rw [crossed.2]
    refine (Writes.plain ("CROSS JOIN " ++ dialect.tableRef join.table)).congr fun f => ?_
    exact if_pos ⟨crossed.1, (bare f).mpr crossed.2⟩
  · refine ((dialect.writes_joinConditions join).prepend
      (join.kind.text ++ " JOIN " ++ dialect.tableRef join.table ++ " ON ")).congr fun f => ?_
    exact if_neg fun both => crossed ⟨both.1, (bare f).mp both.2⟩

theorem writes_joins (joins : List Join) :
    Writes (Join.operators joins) fun f => dialect.joins (joins.map (Join.mapOperators f)) := by
  have each : WritesEach (Join.operators joins) fun f =>
      (joins.map (Join.mapOperators f)).map dialect.join := by
    induction joins with
    | nil => exact .nil
    | cons first rest ih => exact .cons (dialect.writes_join first) ih
  exact each.intercalate " "

theorem writes_unionSide {operators : List String} {text : (String → String) → String}
    (writes : Writes operators text) : Writes operators fun f => dialect.unionSide (text f) := by
  unfold unionSide
  cases dialect.vendor with
  | mysql => exact (writes.prepend "(").follow ")"
  | sqlite => exact writes
  | postgres => exact writes

theorem writes_united {operators others : List String} {main : (String → String) → String}
    {branches : (String → String) → List String} (window : Window)
    (first : Writes operators main) (rest : WritesEach others branches) :
    Writes (operators ++ others) fun f => dialect.united (main f) (branches f) window := by
  have behind := (rest.append (.plain (dialect.windowClauses window))).joinParts
  rw [List.append_nil] at behind
  have whole := (WritesEach.cons (dialect.writes_unionSide first) (.among behind [] [])).joinParts
  cases rest with
  | nil =>
      rw [List.append_nil]
      exact first
  | cons next others => exact whole

theorem writes_locked {operators : List String} {text : (String → String) → String}
    (writes : Writes operators text) (lock : Option Lock) :
    Writes operators fun f => dialect.locked (text f) lock := by
  cases lock with
  | none => exact writes
  | some lock => exact (WritesEach.among writes [] [dialect.lockClause lock]).joinParts

/-! Queries -/

mutual

theorem writes_select : ∀ query : Query,
    Writes query.operators fun f => dialect.select (query.mapOperators f)
  | ⟨columns, distinct, table, joins, wheres, groups, havings, window, unions, unionWindow, lock,
      aggregate⟩ => by
      have joined := dialect.writes_joins joins
      have filtered := (writes_clauses wheres).headed "WHERE"
      have narrowed := (writes_clauses havings).headed "HAVING"
      have parts := WritesEach.cons (.plain (dialect.projection distinct columns aggregate))
        (.cons (.plain (dialect.fromClause table)) (.cons joined (.cons filtered
          (.cons (.plain (dialect.groupClause groups)) (.cons narrowed
            (.plain (dialect.windowClauses window)))))))
      simp only [List.nil_append, List.append_nil, ← List.append_assoc] at parts
      exact dialect.writes_locked
        (dialect.writes_united unionWindow parts.joinParts (writes_branches unions)) lock

theorem writes_branches : ∀ branches : List Branch,
    WritesEach (Branch.operators branches) fun f =>
      dialect.branches (Branch.mapOperators f branches)
  | [] => .nil
  | ⟨query, _⟩ :: rest =>
      .cons ((dialect.writes_unionSide (writes_select query)).prepend _) (writes_branches rest)

theorem writes_clauses : ∀ clauses : List Clause,
    WritesClauses (Clause.operators clauses) fun f =>
      dialect.clauses (Clause.mapOperators f clauses)
  | [] => .nil
  | ⟨connective, predicate⟩ :: rest =>
      .cons connective (writes_predicate predicate) (writes_clauses rest)

theorem writes_predicate : ∀ predicate : Predicate,
    Writes predicate.operators fun f => dialect.predicate (predicate.mapOperators f)
  | .compare column operator operand =>
      (Writes.comparison (dialect.columnRef column) operator " ").follow (dialect.parameter operand)
  | .compareColumns first operator second =>
      (Writes.comparison (dialect.columnRef first) operator " ").follow (dialect.columnRef second)
  | .group members => ((writes_clauses members).chain.prepend "(").follow ")"
  | .compareQuery column operator query =>
      ((Writes.comparison (dialect.columnRef column) operator " (").append
        (writes_select query)).follow ")"
  | .inList _ _ _ => .plain _
  | .inQuery _ _ query => ((writes_select query).prepend _).follow ")"
  | .isNull _ _ => .plain _
  | .between _ _ _ _ => .plain _
  | .exists _ query => ((writes_select query).prepend _).follow ")"
  | .compareDate part column operator operand =>
      (Writes.comparison (dialect.datePart part (dialect.columnRef column)) operator " ").follow
        (dialect.parameter operand)
  | .raw sql => .plain sql

end

/-! Updates and deletes write the joins and the predicates of a query -/

theorem joinedTables_mapOperators (f : String → String) (joins : List Join) :
    dialect.joinedTables (joins.map (Join.mapOperators f)) = dialect.joinedTables joins := by
  rw [joinedTables, List.map_map]
  rfl

theorem writes_whereClause (wheres : List Clause) :
    Writes (Clause.operators wheres) fun f => dialect.whereClause (Clause.mapOperators f wheres) :=
  (dialect.writes_clauses wheres).headed "WHERE"

theorem writes_conditions (joins : List Join) :
    Writes (Join.operators joins) fun f => " AND ".intercalate
      (((joins.map (Join.mapOperators f)).filter fun join => join.conditions ≠ []).map
        dialect.joinConditions) := by
  have each : WritesEach (Join.operators joins) fun f =>
      ((joins.map (Join.mapOperators f)).filter fun join => join.conditions ≠ []).map
        dialect.joinConditions := by
    induction joins with
    | nil => exact .nil
    | cons first rest ih =>
        obtain ⟨kind, table, conditions⟩ := first
        cases conditions with
        | nil => exact ih
        | cons condition others =>
            exact .cons (dialect.writes_joinConditions ⟨kind, table, condition :: others⟩) ih
  exact each.intercalate " AND "

theorem writes_joinedWhere (joins : List Join) (wheres : List Clause) :
    Writes (Join.operators joins ++ Clause.operators wheres) fun f =>
      dialect.joinedWhere (joins.map (Join.mapOperators f)) (Clause.mapOperators f wheres) := by
  have conditions := dialect.writes_conditions joins
  by_cases empty : " AND ".intercalate
      (((joins.map (Join.mapOperators id)).filter fun join => join.conditions ≠ []).map
        dialect.joinConditions) = ""
  · rw [conditions.operators_of_empty empty]
    refine (dialect.writes_whereClause wheres).congr fun f => ?_
    exact if_pos ((conditions.eq_empty_iff f id).mpr empty)
  · have joined : ∀ f, dialect.joinedWhere (joins.map (Join.mapOperators f))
        (Clause.mapOperators f wheres) = _ := fun f =>
      if_neg (mt (conditions.eq_empty_iff f id).mp empty)
    cases wheres with
    | nil =>
        rw [Clause.operators, List.append_nil]
        exact (conditions.prepend "WHERE ").congr joined
    | cons first rest =>
        obtain ⟨connective, predicate⟩ := first
        refine ((((conditions.prepend "WHERE ").follow " AND (").append
          (dialect.writes_clauses (⟨connective, predicate⟩ :: rest)).chain).follow ")").congr
            fun f => (joined f).trans (if_neg Bool.false_ne_true)

variable {dialect} {query : Query} {operators : List String}

/-- The joins of a query stay as many, so its vendor arranges it in the same way. -/
theorem Arranged.writes {alone bounded joined listed sql : String}
    {alones boundeds joineds listeds : (String → String) → String}
    (arranged : dialect.Arranged query alone bounded joined listed sql)
    (single : query.joins = [] → Writes operators alones ∧ Writes operators boundeds)
    (several : Writes operators joineds ∧ Writes operators listeds) :
    ∃ text, Writes operators text ∧ ∀ f, dialect.Arranged (query.mapOperators f) (alones f)
      (boundeds f) (joineds f) (listeds f) (text f) := by
  have none : ∀ f, (query.mapOperators f).joins = [] ↔ query.joins = [] := by
    obtain ⟨_, _, _, joins, _, _, _, _, _, _, _, _⟩ := query
    exact fun f => List.map_eq_nil_iff
  rcases arranged with ⟨elsewhere, one⟩ | ⟨mysql, one⟩ | ⟨mysql, more⟩ | ⟨postgres, more⟩
  · exact ⟨alones, (single one).1, fun f => .alone elsewhere ((none f).mpr one)⟩
  · exact ⟨boundeds, (single one).2, fun f => .bounded mysql ((none f).mpr one)⟩
  · exact ⟨joineds, several.1, fun f => .joined mysql (mt (none f).mp more)⟩
  · exact ⟨listeds, several.2, fun f => .listed postgres (mt (none f).mp more)⟩

theorem writes_update {record : Record} {sql : String}
    (compiled : dialect.update query record = .ok sql) :
    ∃ text, Writes (Join.operators query.joins ++ Clause.operators query.wheres) text ∧
      ∀ f, dialect.update (query.mapOperators f) record = .ok (text f) := by
  obtain ⟨table, named, assigned, shape⟩ := update_eq_ok_iff.mp compiled
  have filtered := dialect.writes_whereClause query.wheres
  have joined := dialect.writes_joins query.joins
  have narrowed := dialect.writes_joinedWhere query.joins query.wheres
  have tables := fun f => dialect.joinedTables_mapOperators f query.joins
  obtain ⟨columns, distinct, _, joins, wheres, groups, havings, window, unions, unionWindow, lock,
    aggregate⟩ := query
  let update := "UPDATE " ++ dialect.tableRef table
  let set := "SET " ++ dialect.assignments record
  obtain ⟨text, writes, arranged⟩ := Arranged.writes shape
    (fun single => by
      obtain rfl : joins = [] := single
      exact ⟨(WritesEach.among filtered [update ++ " " ++ set] []).joinParts,
        (WritesEach.among filtered [update, set]
          [dialect.orderClause window.orders, dialect.limitClause window]).joinParts⟩)
    ⟨(WritesEach.cons (.plain update) (.cons joined (.among filtered [set] []))).joinParts,
      (WritesEach.among narrowed
        [update ++ " " ++ set, "FROM " ++ dialect.joinedTables joins] []).joinParts⟩
  refine ⟨text, writes, fun f => update_eq_ok_iff.mpr ⟨table, named, assigned, ?_⟩⟩
  simp only [Updates, Query.mapOperators, tables]
  exact arranged f

theorem writes_delete {sql : String} (compiled : dialect.delete query = .ok sql) :
    ∃ text, Writes (Join.operators query.joins ++ Clause.operators query.wheres) text ∧
      ∀ f, dialect.delete (query.mapOperators f) = .ok (text f) := by
  obtain ⟨table, named, shape⟩ := delete_eq_ok_iff.mp compiled
  have filtered := dialect.writes_whereClause query.wheres
  have joined := dialect.writes_joins query.joins
  have narrowed := dialect.writes_joinedWhere query.joins query.wheres
  have tables := fun f => dialect.joinedTables_mapOperators f query.joins
  obtain ⟨columns, distinct, _, joins, wheres, groups, havings, window, unions, unionWindow, lock,
    aggregate⟩ := query
  let target := dialect.tableRef table
  let delete := "DELETE FROM " ++ target
  obtain ⟨text, writes, arranged⟩ := Arranged.writes shape
    (fun single => by
      obtain rfl : joins = [] := single
      exact ⟨(WritesEach.among filtered [delete] []).joinParts,
        (WritesEach.among filtered [delete]
          [dialect.orderClause window.orders, dialect.limitClause window]).joinParts⟩)
    ⟨(WritesEach.cons (.plain ("DELETE " ++ dialect.deleteTarget table ++ " FROM " ++ target))
        (.cons joined (.among filtered [] []))).joinParts,
      (WritesEach.among narrowed
        [delete ++ " USING " ++ dialect.joinedTables joins] []).joinParts⟩
  refine ⟨text, writes, fun f => delete_eq_ok_iff.mpr ⟨table, named, ?_⟩⟩
  simp only [Deletes, Query.mapOperators, tables]
  exact arranged f

end Dialect

/-! The operators that a query has -/

mutual

theorem Query.mapOperators_id : ∀ query : Query, query.mapOperators id = query
  | ⟨columns, distinct, table, joins, wheres, groups, havings, window, unions, unionWindow, lock,
      aggregate⟩ => by
      have condition : ∀ condition : JoinCondition, condition.mapOperators id = condition :=
        fun _ => rfl
      have join : ∀ join : Join, join.mapOperators id = join := fun join => by
        rw [Join.mapOperators, List.map_id'' condition]
      rw [Query.mapOperators, List.map_id'' join, Clause.mapOperators_id wheres,
        Clause.mapOperators_id havings, Branch.mapOperators_id unions]

theorem Branch.mapOperators_id :
    ∀ branches : List Branch, Branch.mapOperators id branches = branches
  | [] => rfl
  | ⟨query, keepsDuplicates⟩ :: rest => by
      rw [Branch.mapOperators, Query.mapOperators_id query, Branch.mapOperators_id rest]

theorem Clause.mapOperators_id :
    ∀ clauses : List Clause, Clause.mapOperators id clauses = clauses
  | [] => rfl
  | ⟨connective, predicate⟩ :: rest => by
      rw [Clause.mapOperators, Predicate.mapOperators_id predicate, Clause.mapOperators_id rest]

theorem Predicate.mapOperators_id : ∀ predicate : Predicate, predicate.mapOperators id = predicate
  | .group members => by rw [Predicate.mapOperators, Clause.mapOperators_id members]
  | .compareQuery _ _ query => by rw [Predicate.mapOperators, Query.mapOperators_id query]; rfl
  | .inQuery _ _ query => by rw [Predicate.mapOperators, Query.mapOperators_id query]
  | .exists _ query => by rw [Predicate.mapOperators, Query.mapOperators_id query]
  | .compare _ _ _ | .compareColumns _ _ _ | .inList _ _ _ | .isNull _ _ | .between _ _ _ _
  | .compareDate _ _ _ _ | .raw _ => rfl

end

end SqlToolkit
