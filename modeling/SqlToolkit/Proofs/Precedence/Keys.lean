import SqlToolkit.Proofs.Changes.Basic
import SqlToolkit.Proofs.Placement.Fetch
import SqlToolkit.Proofs.Precedence.Joins
import SqlToolkit.Query.Change
/-!
Reading and deleting by a key. The predicate on the key is added with AND behind all others, so it
holds for every row that passes just if the predicates before it have no OR; for a joined delete of
PostgreSQL, the joins must have none either.
-/

namespace SqlToolkit

/-! Statements around their WHERE -/

namespace Dialect

variable (dialect : Dialect) (query : Query)

/-- The text of a select with `clause` as the WHERE of its own rows. -/
def selectAround (clause : String) : String :=
  let main := joinParts ([dialect.projection query.distinct query.columns query.aggregate,
    dialect.fromClause query.table, dialect.joins query.joins, clause,
    dialect.groupClause query.groups, headed "HAVING" (dialect.clauses query.havings)] ++
    dialect.windowClauses query.window)
  dialect.locked (dialect.united main (dialect.branches query.unions) query.unionWindow) query.lock

/-- The text of a delete with `clause` as its WHERE. -/
def deleteAround (table : Identifier) (clause : String) : String :=
  let target := dialect.tableRef table
  if query.joins.isEmpty then
    joinParts (["DELETE FROM " ++ target, clause] ++
      if dialect.vendor = .mysql then
        [dialect.orderClause query.window.orders, dialect.limitClause query.window] else [])
  else if dialect.vendor = .mysql then
    joinParts ["DELETE " ++ dialect.deleteTarget table ++ " FROM " ++ target,
      dialect.joins query.joins, clause]
  else
    joinParts ["DELETE FROM " ++ target ++ " USING " ++ dialect.joinedTables query.joins, clause]

/-- The WHERE of a delete as signs; PostgreSQL has the conditions of the joins in it. -/
def deleteSigns : List Sign :=
  if dialect.vendor = .postgres then joinedSigns dialect query.joins query.wheres
  else Clause.signs dialect [] 0 query.wheres

variable {dialect query}

theorem select_eq_around :
    dialect.select query =
      dialect.selectAround query
        (spellClause "WHERE" (Clause.signs dialect [] 0 query.wheres)) := by
  obtain ⟨_, _, _, _, _, _, _, _, _, _, _, _⟩ := query
  rw [← whereClause_eq_spellClause, select]
  rfl

theorem joinedSigns_nil (wheres : List Clause) :
    joinedSigns dialect [] wheres = Clause.signs dialect [] 0 wheres :=
  if_pos rfl

theorem delete_eq_around_iff {sql : String} :
    dialect.delete query = .ok sql ↔
      ∃ table, query.table = some table ∧ (dialect.vendor = .sqlite → query.joins = []) ∧
        sql = dialect.deleteAround query table
          (spellClause "WHERE" (dialect.deleteSigns query)) := by
  rw [delete_eq_ok_iff]
  refine exists_congr fun table => and_congr_right fun _ => arranged_iff_eq.trans
    (and_congr_right fun refused => ?_)
  unfold deleteAround deleteSigns
  cases vendor : dialect.vendor with
  | sqlite => simp [refused vendor, whereClause_eq_spellClause]
  | mysql => simp [whereClause_eq_spellClause]
  | postgres =>
      by_cases single : query.joins = []
      · simp [single, joinedSigns_nil, whereClause_eq_spellClause]
      · simp [single, joinedWhere_eq_spellClause]

end Dialect

/-! What is sent for a key -/

/-- The predicate on the key. -/
def Predicate.key (key : Operand) : Predicate :=
  .compare (.named "id") "=" key

namespace Builder

variable {builder : Builder} {key : Operand} {request : Request}

/-- A key that is not NULL is compared, behind all other predicates. -/
theorem whereKey_eq (value : key.isNull = false) :
    builder.whereKey key = (builder.bind .filter key.bindings).addWhere .and (.key key) := by
  rw [whereKey, whereCompare, if_neg (by simp [value]), checked,
    if_pos builder.dialect.vendor.knowsOperator_equal]
  rfl

theorem find_sends_iff (accepted : builder.fault = none) (value : key.isNull = false) :
    (builder.find key).Sends request ↔
      request = .fetch false ⟨builder.dialect.selectAround (builder.limit 1).query
        (spellClause "WHERE" (Clause.signs builder.dialect [] 0
          (builder.query.wheres ++ [⟨.and, .key key⟩]))),
        (builder.bindings.extend .filter key.bindings).flatten⟩ := by
  have sent : (builder.find key).Sends request ↔
      ((builder.whereKey key).limit 1).get.Sends request := Program.sends_map_iff
  have keyed : ((builder.whereKey key).limit 1).fault = none :=
    Follows.fault_whereKey accepted key
  have taken : ¬(1 : Int) < 0 := by decide
  rw [sent, get_sends_iff keyed, Dialect.select_eq_around, whereKey_eq value]
  unfold limit changeWindow
  rw [if_neg taken, if_neg taken]
  unfold change
  dsimp only [addWhere, bind, change]
  split <;> rfl

theorem delete_sends_iff (accepted : builder.fault = none) :
    builder.delete.Sends request ↔ ∃ sql, builder.dialect.delete builder.query = .ok sql ∧
      request = .execute ⟨sql, builder.dialect.deleteBindings builder.query builder.bindings⟩ := by
  rw [delete, sound, accepted]
  cases builder.dialect.delete builder.query with
  | error fault =>
      constructor
      · intro sent
        cases sent
      · rintro ⟨sql, sound, _⟩
        cases sound
  | ok sql =>
      have sent : (Program.execute ⟨sql, builder.dialect.deleteBindings builder.query
          builder.bindings⟩ >>= fun receipt => pure receipt.affected).Sends request ↔ _ :=
        Program.sends_map_iff.trans Program.sends_execute_iff
      exact sent.trans (by simp)

theorem deleteKey_sends_iff (accepted : builder.fault = none) (value : key.isNull = false) :
    (builder.deleteKey key).Sends request ↔
      ∃ table, builder.query.table = some table ∧
        (builder.dialect.vendor = .sqlite → builder.query.joins = []) ∧
        request = .execute ⟨builder.dialect.deleteAround builder.query table
          (spellClause "WHERE" (builder.dialect.deleteSigns
            { builder.query with wheres := builder.query.wheres ++ [⟨.and, .key key⟩] })),
          builder.dialect.deleteBindings builder.query
            (builder.bindings.extend .filter key.bindings)⟩ := by
  have keyed : (builder.whereKey key).fault = none := Follows.fault_whereKey accepted key
  have sent : (builder.deleteKey key).Sends request ↔ (builder.whereKey key).delete.Sends request :=
    Iff.rfl
  rw [sent, delete_sends_iff keyed, whereKey_eq value]
  simp only [Dialect.delete_eq_around_iff]
  constructor
  · rintro ⟨_, ⟨table, named, single, rfl⟩, rfl⟩
    exact ⟨table, named, single, rfl⟩
  · rintro ⟨table, named, single, rfl⟩
    exact ⟨_, ⟨table, named, single, rfl⟩, rfl⟩

end Builder

/-! What the key decides -/

section Decided

variable {dialect : Dialect} {wheres : List Clause} {joins : List Join} {key : Operand}

/-- Everything holds but one predicate. -/
def Place.isOther (index : Nat) (place : Place) : Bool :=
  place ≠ .filter [index]

theorem Clause.populated_keyed (populated : Clause.Populated wheres) :
    Clause.Populated (wheres ++ [⟨.and, .key key⟩]) :=
  Clause.populated_append.mpr ⟨populated, trivial, trivial⟩

theorem Place.isOther_of_lt {index count : Nat} (before : index < count) (more : List Nat) :
    Place.isOther count (.filter (index :: more)) = true := by
  refine decide_eq_true fun same => ?_
  cases same
  exact Nat.lt_irrefl _ before

theorem key_of_passes {truth : Place → Bool} (populated : Clause.Populated wheres)
    (joined : Conjoined (wheres.map Clause.connective))
    (passes : Passes truth (Clause.signs dialect [] 0 (wheres ++ [⟨.and, .key key⟩]))) :
    truth (.filter [wheres.length]) = true := by
  have held := ((Clause.passes_narrowed (Clause.populated_keyed populated) joined [] 0).mp passes).2
  rw [List.nil_append, Nat.zero_add] at held
  exact Option.some_inj.mp held

theorem passes_without_key (populated : Clause.Populated wheres)
    (several : ¬Conjoined (wheres.map Clause.connective)) :
    Passes (Place.isOther wheres.length)
      (Clause.signs dialect [] 0 (wheres ++ [⟨.and, .key key⟩])) :=
  Clause.passes_unnarrowed (Clause.populated_keyed populated) several fun _ more before =>
    Place.isOther_of_lt before more

theorem not_isOther (index : Nat) : Place.isOther index (.filter [index]) = false :=
  decide_eq_false (not_not_intro rfl)

/-- The key decides a list of predicates just if it has no OR. -/
theorem key_decides_iff (populated : Clause.Populated wheres) :
    (∀ truth, Passes truth (Clause.signs dialect [] 0 (wheres ++ [⟨.and, .key key⟩])) →
      truth (.filter [wheres.length]) = true) ↔ Conjoined (wheres.map Clause.connective) := by
  refine ⟨fun decides => ?_, fun joined _ => key_of_passes populated joined⟩
  by_contra several
  have held := decides _ (passes_without_key populated several)
  rw [not_isOther] at held
  cases held

/-- Behind joins, it decides them just if the joins have no OR either. -/
theorem key_decides_joined_iff (populated : Clause.Populated wheres) :
    (∀ truth, Passes truth (joinedSigns dialect joins (wheres ++ [⟨.and, .key key⟩])) →
      truth (.filter [wheres.length]) = true) ↔
      Conjoined (wheres.map Clause.connective) ∧
        ∀ join ∈ joins, Conjoined (join.conditions.map JoinCondition.connective) := by
  have keyed : Clause.Populated (wheres ++ [⟨.and, .key key⟩]) := Clause.populated_keyed populated
  constructor
  · intro decides
    -- Where only the key fails, no row may pass; an OR in a join or in the predicates lets one.
    have refused : ¬Passes (Place.isOther wheres.length)
        (joinedSigns dialect joins (wheres ++ [⟨.and, .key key⟩])) := by
      intro passes
      have held := decides _ passes
      rw [not_isOther] at held
      cases held
    have alone : ∀ join ∈ joins, Conjoined (join.conditions.map JoinCondition.connective) := by
      intro join member
      by_contra several
      obtain ⟨left, right, rfl⟩ := List.append_of_mem member
      exact refused (passes_joined_front keyed several fun _ _ _ => rfl)
    refine ⟨?_, alone⟩
    by_contra several
    refine refused ((passes_joined_of_conjoined keyed alone).mpr ⟨fun place join _ => ?_, ?_⟩)
    · exact (join.readsEach_items place).passes_of_all (Join.valueOf_items fun _ => rfl)
    · exact passes_without_key populated several
  · rintro ⟨joined, alone⟩ truth passes
    exact key_of_passes populated joined ((passes_joined_of_conjoined keyed alone).mp passes).2

end Decided

/-- `find` and `deleteKey` compare the key behind all predicates. The comparison decides which rows
pass just if the predicates, and the joins that PostgreSQL has in the same WHERE, have no OR. -/
theorem key_addresses_row_iff (dialect : Dialect) (steps : List Step) (key : Operand)
    (accepted : (({ dialect } : Builder).run steps).fault = none) (value : key.isNull = false) :
    let builder := ({ dialect } : Builder).run steps
    let query := builder.query
    let keyed := { query with wheres := query.wheres ++ [⟨.and, .compare (.named "id") "=" key⟩] }
    let bindings := builder.bindings.extend .filter key.bindings
    let found := Clause.signs dialect [] 0 keyed.wheres
    let deleted := dialect.deleteSigns keyed
    (∀ request, (builder.find key).Sends request ↔
      request = .fetch false ⟨dialect.selectAround (builder.limit 1).query
        (spellClause "WHERE" found), bindings.flatten⟩) ∧
    (∀ request, (builder.deleteKey key).Sends request ↔
      ∃ table, query.table = some table ∧ (dialect.vendor = .sqlite → query.joins = []) ∧
        request = .execute ⟨dialect.deleteAround query table (spellClause "WHERE" deleted),
          dialect.deleteBindings query bindings⟩) ∧
    ((∀ truth, Passes truth found → truth (.filter [query.wheres.length]) = true) ↔
      Conjoined (query.wheres.map Clause.connective)) ∧
    ((∀ truth, Passes truth deleted → truth (.filter [query.wheres.length]) = true) ↔
      Conjoined (query.wheres.map Clause.connective) ∧
        (dialect.vendor = .postgres →
          ∀ join ∈ query.joins, Conjoined (join.conditions.map JoinCondition.connective))) := by
  intro builder query keyed bindings found deleted
  have speaks : (({ dialect } : Builder).run steps).dialect = dialect := by
    rw [Builder.run_eq_calls, Builder.dialect_calls]
  have populated : Clause.Populated query.wheres := Builder.Populated.run steps _ trivial
  refine ⟨fun request => ?found, fun request => ?deleted, key_decides_iff populated, ?decides⟩
  case found =>
    have sent : (builder.find key).Sends request ↔ _ := Builder.find_sends_iff accepted value
    rw [speaks] at sent
    exact sent
  case deleted =>
    have sent : (builder.deleteKey key).Sends request ↔ _ :=
      Builder.deleteKey_sends_iff accepted value
    rw [speaks] at sent
    exact sent
  case decides =>
    simp only [deleted, Dialect.deleteSigns]
    by_cases postgres : dialect.vendor = .postgres
    · rw [if_pos postgres, forall_prop_of_true postgres]
      exact key_decides_joined_iff populated
    · rw [if_neg postgres, iff_true_intro (fun same => absurd same postgres), and_true]
      exact key_decides_iff populated

/-- The alternatives stand in a group of their own. -/
def keyedSteps : List Step :=
  [.table (.named "users"),
    .join ⟨.inner, .named "teams",
      [⟨.and, .named "teams.id", "=", .column (.named "users.team_id")⟩]⟩,
    .whereGroup .and [.whereCompare .and (.named "a") "=" (.bound (.integer 1)),
      .whereCompare .or (.named "b") "=" (.bound (.integer 2))]]

theorem grouped_key_addresses_row :
    let dialect := Vendor.postgres.dialect
    let builder := ({ dialect } : Builder).run keyedSteps
    let key : Operand := .bound (.integer 5)
    let keyed := { builder.query with
      wheres := builder.query.wheres ++ [⟨.and, .compare (.named "id") "=" key⟩] }
    (builder.deleteKey key).Sends (.execute ⟨dialect.deleteAround builder.query (.named "users")
      (spellClause "WHERE" (dialect.deleteSigns keyed)), [.integer 1, .integer 2, .integer 5]⟩) ∧
    (∀ truth, Passes truth (Clause.signs dialect [] 0 keyed.wheres) →
      truth (.filter [1]) = true) ∧
    ∀ truth, Passes truth (dialect.deleteSigns keyed) → truth (.filter [1]) = true := by
  have addressed := key_addresses_row_iff Vendor.postgres.dialect keyedSteps (.bound (.integer 5))
    rfl rfl
  refine ⟨(addressed.2.1 _).mpr ⟨.named "users", rfl, nofun, rfl⟩,
    addressed.2.2.1.mpr (by decide), addressed.2.2.2.mpr ⟨by decide, fun _ => ?_⟩⟩
  decide

/-- The row that an alternative in front admits is deleted, whatever its key. -/
theorem delete_passed_by_other_key :
    let dialect := Vendor.sqlite.dialect
    let builder := ({ dialect } : Builder).run [.table (.named "users"),
      .whereCompare .and (.named "a") "=" (.bound (.integer 1)),
      .whereCompare .or (.named "b") "=" (.bound (.integer 2))]
    let key : Operand := .bound (.integer 5)
    let truth (place : Place) : Bool := place = .filter [0]
    (builder.deleteKey key).Sends (.execute
      ⟨"DELETE FROM \"users\" WHERE \"a\" = ? OR \"b\" = ? AND \"id\" = ?",
        [.integer 1, .integer 2, .integer 5]⟩) ∧
    Passes truth (Clause.signs dialect [] 0
      (builder.query.wheres ++ [⟨.and, .compare (.named "id") "=" key⟩])) ∧
    truth (.filter [2]) = false := by
  refine ⟨(Builder.deleteKey_sends_iff rfl rfl).mpr ⟨.named "users", rfl, fun _ => rfl, ?_⟩, ?_⟩
  · decide +kernel
  · decide +kernel

end SqlToolkit
