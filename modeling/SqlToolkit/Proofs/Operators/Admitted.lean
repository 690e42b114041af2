import SqlToolkit.Proofs.Draft.Steps
import SqlToolkit.Proofs.Operators.Written
/-!
Only known operators are admitted to a query: every step that is not refused keeps the operators of
the query known, whatever it adds.
-/

namespace SqlToolkit

theorem operators_groupFrom (place : Nat) (wheres : List Clause) :
    Clause.operators (Builder.groupFrom place wheres) = Clause.operators wheres := by
  obtain same | ⟨front, first, rest, parts, grouped⟩ := Builder.groupFrom_cases place wheres
  · rw [same]
  · rw [grouped, parts, Clause.operators_append, Clause.operators_append, Clause.operators,
      Clause.operators, Predicate.operators, List.append_nil]

namespace Builder

/-! What is added to a builder -/

section Added

variable {vendor : Vendor} {builder : Builder} {connective : Connective} {operator : String}

theorem known_addWhere {builder : Builder} {predicate : Predicate}
    (known : builder.query.Known vendor) (added : vendor.KnowsAll predicate.operators) :
    (builder.addWhere connective predicate).query.Known vendor := by
  refine { known with wheres := ?_ }
  change vendor.KnowsAll (Clause.operators (builder.query.wheres ++ [⟨connective, predicate⟩]))
  rw [Clause.operators_append, Clause.operators, Clause.operators, List.append_nil]
  exact known.wheres.append added

theorem known_addHaving {builder : Builder} {predicate : Predicate}
    (known : builder.query.Known vendor) (added : vendor.KnowsAll predicate.operators) :
    (builder.addHaving connective predicate).query.Known vendor := by
  refine { known with havings := ?_ }
  change vendor.KnowsAll (Clause.operators (builder.query.havings ++ [⟨connective, predicate⟩]))
  rw [Clause.operators_append, Clause.operators, Clause.operators, List.append_nil]
  exact known.havings.append added

/-- An operator that is not refused is one that the vendor knows. -/
theorem known_checked {next : Builder} (speaks : builder.dialect.vendor = vendor)
    (admitted : vendor.operatorFault operator = none) (taken : next.query.Known vendor) :
    (builder.checked operator next).query.Known vendor := by
  unfold Vendor.operatorFault at admitted
  unfold checked
  rw [speaks]
  split at admitted
  · rename_i known
    rw [if_pos known]
    exact taken
  · cases admitted

theorem known_whereCompare {column : Identifier} {operand : Operand}
    (known : builder.query.Known vendor) (speaks : builder.dialect.vendor = vendor)
    (admitted : vendor.comparisonFault operator operand = none) :
    (builder.whereCompare connective column operator operand).query.Known vendor := by
  unfold Vendor.comparisonFault at admitted
  unfold whereCompare
  split at admitted
  · rename_i null
    rw [if_pos null]
    split
    · exact known_addWhere known .nil
    · split
      · exact known_addWhere known .nil
      · exact known
  · rename_i value
    rw [if_neg value]
    have bound : (builder.bind .filter operand.bindings).query.Known vendor := known
    exact known_checked speaks admitted (known_addWhere bound (.singleton admitted))

theorem known_compareAll {conditions : List (Identifier × String × Operand)}
    (known : builder.query.Known vendor) (speaks : builder.dialect.vendor = vendor)
    (admitted : Call.firstFault vendor (conditions.map fun (column, operator, operand) =>
      .whereCompare .and column operator operand) = none) :
    (builder.calls (conditions.map fun (column, operator, operand) =>
      .whereCompare .and column operator operand)).query.Known vendor := by
  induction conditions generalizing builder with
  | nil => exact known
  | cons first rest ih =>
      obtain ⟨refusal, behind⟩ := Option.or_eq_none_iff.mp admitted
      refine ih (known_whereCompare known speaks (Option.or_eq_none_iff.mp refusal).1) ?_ behind
      rw [dialect_call, speaks]

theorem known_whereGroupOf {nested : Builder} (known : builder.query.Known vendor)
    (inner : nested.query.Known vendor) :
    (builder.whereGroupOf connective nested).query.Known vendor := by
  have absorbed : ((builder.absorb nested).bind .filter nested.bindings.filter).query.Known
    vendor := known
  unfold whereGroupOf
  dsimp only
  split
  · exact known
  · exact known_addWhere absorbed inner.wheres

theorem known_whereQuery {column : Identifier} {sub : Builder} (known : builder.query.Known vendor)
    (speaks : builder.dialect.vendor = vendor) (admitted : vendor.operatorFault operator = none)
    (inner : sub.query.Known vendor) :
    (builder.whereQuery connective column operator sub).query.Known vendor := by
  have absorbed : ((builder.absorb sub).bind .filter sub.bindings.flatten).query.Known
    vendor := known
  exact known_checked speaks admitted (known_addWhere absorbed
    (Vendor.KnowsAll.append (.singleton admitted) (Query.Known.iff_knowsAll.mp inner)))

theorem known_whereColumns {first second : Identifier} (known : builder.query.Known vendor)
    (speaks : builder.dialect.vendor = vendor) (admitted : vendor.operatorFault operator = none) :
    (builder.whereColumns connective first operator second).query.Known vendor :=
  known_checked speaks admitted (known_addWhere known (.singleton admitted))

theorem known_whereIn {negated : Bool} {column : Identifier} {operands : List Operand}
    (known : builder.query.Known vendor) :
    (builder.whereIn connective negated column operands).query.Known vendor := by
  have bound : (builder.bind .filter (operands.flatMap Operand.bindings)).query.Known vendor :=
    known
  exact known_addWhere bound .nil

theorem known_whereInQuery {negated : Bool} {column : Identifier} {sub : Builder}
    (known : builder.query.Known vendor) (inner : sub.query.Known vendor) :
    (builder.whereInQuery connective negated column sub).query.Known vendor := by
  have absorbed : ((builder.absorb sub).bind .filter sub.bindings.flatten).query.Known
    vendor := known
  exact known_addWhere absorbed (Query.Known.iff_knowsAll.mp inner)

theorem known_whereBetween {negated : Bool} {column : Identifier} {low high : Operand}
    (known : builder.query.Known vendor) :
    (builder.whereBetween connective negated column low high).query.Known vendor := by
  have bound : (builder.bind .filter (low.bindings ++ high.bindings)).query.Known vendor := known
  exact known_addWhere bound .nil

theorem known_whereExists {negated : Bool} {sub : Builder} (known : builder.query.Known vendor)
    (inner : sub.query.Known vendor) :
    (builder.whereExists connective negated sub).query.Known vendor := by
  have absorbed : ((builder.absorb sub).bind .filter sub.bindings.flatten).query.Known
    vendor := known
  exact known_addWhere absorbed (Query.Known.iff_knowsAll.mp inner)

theorem known_whereDate {part : DatePart} {column : Identifier} {operand : Operand}
    (known : builder.query.Known vendor) (speaks : builder.dialect.vendor = vendor)
    (admitted : vendor.operatorFault operator = none) :
    (builder.whereDate connective part column operator operand).query.Known vendor := by
  have bound : ∀ values : List Value, (builder.bind .filter values).query.Known vendor :=
    fun _ => known
  exact known_checked speaks admitted (known_addWhere (bound _) (.singleton admitted))

theorem known_whereRaw {sql : String} {values : List Value} (known : builder.query.Known vendor) :
    (builder.whereRaw connective sql values).query.Known vendor := by
  have bound : (builder.bind .filter values).query.Known vendor := known
  exact known_addWhere bound .nil

theorem known_having {column : Identifier} {operand : Operand} (known : builder.query.Known vendor)
    (speaks : builder.dialect.vendor = vendor) (admitted : vendor.operatorFault operator = none) :
    (builder.having connective column operator operand).query.Known vendor := by
  have bound : (builder.bind .having operand.bindings).query.Known vendor := known
  exact known_checked speaks admitted (known_addHaving bound (.singleton admitted))

theorem known_havingRaw {sql : String} {values : List Value} (known : builder.query.Known vendor) :
    (builder.havingRaw connective sql values).query.Known vendor := by
  have bound : (builder.bind .having values).query.Known vendor := known
  exact known_addHaving bound .nil

theorem known_join {join : Join} (known : builder.query.Known vendor)
    (speaks : builder.dialect.vendor = vendor) (sound : joinFault vendor join = none) :
    (builder.join join).query.Known vendor := by
  unfold Builder.join
  rw [speaks, sound]
  refine { known with joins := ?_ }
  change vendor.KnowsAll (Join.operators (builder.query.joins ++ [join]))
  rw [Join.operators, List.flatMap_append]
  exact known.joins.append (.join sound)

theorem known_union {other : Builder} (known : builder.query.Known vendor) (keepsDuplicates : Bool)
    (branch : other.query.Known vendor) :
    (builder.union keepsDuplicates other).query.Known vendor := by
  refine { known with unions := ?_ }
  change vendor.KnowsAll
    (Branch.operators (builder.query.unions ++ [⟨other.query, keepsDuplicates⟩]))
  rw [Branch.operators_append, Branch.operators, Branch.operators, List.append_nil]
  exact known.unions.append (Query.Known.iff_knowsAll.mp branch)

theorem known_applyScope {scope : Builder → Builder}
    (known : (scope builder).query.Known vendor) :
    (builder.applyScope scope).query.Known vendor := by
  unfold applyScope
  dsimp only
  split
  · exact known
  · refine { known with wheres := ?_ }
    change vendor.KnowsAll (Clause.operators (groupFrom _ (scope builder).query.wheres))
    rw [operators_groupFrom]
    exact known.wheres

theorem known_changeWindow {builder : Builder} (known : builder.query.Known vendor)
    (f : Window → Window) : (builder.changeWindow f).query.Known vendor := by
  unfold changeWindow change
  dsimp only
  split
  · exact { known with }
  · exact { known with }

theorem known_orderByRaw (known : builder.query.Known vendor) (sql : String)
    (values : List Value) : (builder.orderByRaw sql values).query.Known vendor := by
  have bound : ∀ bucket, (builder.bind bucket values).query.Known vendor := fun _ => known
  exact known_changeWindow (bound _) _

theorem known_limit (known : builder.query.Known vendor) (count : Int) :
    (builder.limit count).query.Known vendor := by
  unfold limit
  split
  · exact known
  · exact known_changeWindow known _

theorem known_setBindings (known : builder.query.Known vendor) (values : List Value)
    (bucket : String) : (builder.setBindings values bucket).query.Known vendor := by
  unfold setBindings
  split
  · exact known
  · exact known

theorem known_addBinding (known : builder.query.Known vendor) (value : Value) (bucket : String) :
    (builder.addBinding value bucket).query.Known vendor := by
  unfold addBinding
  split
  · exact known
  · exact known

end Added

/-! Chains -/

theorem accepted_iff (dialect : Dialect) (steps : List Step) :
    (({ dialect } : Builder).run steps).fault = none ↔
      Call.firstFault dialect.vendor (dialect.calls steps) = none := by
  rw [run_eq_calls, fault_calls]
  rfl

mutual

theorem known_step (dialect : Dialect) : ∀ step : Step, step.Unmerged →
    (dialect.call step).refusal dialect.vendor = none → ∀ builder : Builder,
    builder.dialect = dialect → builder.query.Known dialect.vendor →
    (builder.step step).query.Known dialect.vendor
  | .table _, _, _, _, _, known | .select _, _, _, _, _, known | .addSelect _, _, _, _, _, known
  | .selectRaw _ _, _, _, _, _, known | .selectQuery _ _, _, _, _, _, known
  | .distinct, _, _, _, _, known | .groupBy _, _, _, _, _, known | .lock _, _, _, _, _, known
  | .mergeBindings _, _, _, _, _, known => { known with }
  | .join _, _, admitted, _, speaks, known =>
      known_join known (congrArg Dialect.vendor speaks) (Option.or_eq_none_iff.mp admitted).1
  | .whereCompare _ _ _ _, _, admitted, _, speaks, known =>
      known_whereCompare known (congrArg Dialect.vendor speaks)
        (Option.or_eq_none_iff.mp admitted).1
  | .whereAll conditions, _, admitted, builder, speaks, known => by
      change (builder.whereAll conditions).query.Known dialect.vendor
      rw [← call_whereAll]
      exact known_whereGroupOf known (known_compareAll (.empty builder.query.table)
        (congrArg Dialect.vendor speaks) admitted)
  | .whereRecord record, _, admitted, builder, speaks, known => by
      change (builder.whereRecord record).query.Known dialect.vendor
      rw [← call_whereRecord]
      exact known_whereGroupOf known (known_compareAll (.empty builder.query.table)
        (congrArg Dialect.vendor speaks) admitted)
  | .whereGroup _ steps, unmerged, admitted, builder, speaks, known =>
      known_whereGroupOf known
        (known_run dialect steps unmerged admitted _ speaks (.empty builder.query.table))
  | .whereGroupOf _ steps, unmerged, admitted, builder, speaks, known =>
      known_whereGroupOf known (known_run dialect steps unmerged
        ((accepted_iff dialect steps).mp admitted) builder.fresh speaks (.empty none))
  | .whereQuery _ _ _ steps, unmerged, admitted, builder, speaks, known => by
      obtain ⟨admitted, accepted⟩ := Option.or_eq_none_iff.mp admitted
      have inner := known_run dialect steps unmerged ((accepted_iff dialect steps).mp accepted)
        builder.fresh speaks (.empty none)
      exact known_whereQuery known (congrArg Dialect.vendor speaks) admitted inner
  | .whereColumns _ _ _ _, _, admitted, _, speaks, known =>
      known_whereColumns known (congrArg Dialect.vendor speaks)
        (Option.or_eq_none_iff.mp admitted).1
  | .whereIn _ _ _ _, _, _, _, _, known => known_whereIn known
  | .whereInQuery _ _ _ steps, unmerged, admitted, builder, speaks, known =>
      known_whereInQuery known (known_run dialect steps unmerged
        ((accepted_iff dialect steps).mp admitted) builder.fresh speaks (.empty none))
  | .whereNull _ _ _, _, _, _, _, known => known_addWhere known .nil
  | .whereBetween _ _ _ _ _, _, _, _, _, known => known_whereBetween known
  | .whereExists _ _ steps, unmerged, admitted, builder, speaks, known =>
      known_whereExists known (known_run dialect steps unmerged
        ((accepted_iff dialect steps).mp admitted) builder.fresh speaks (.empty none))
  | .whereDate _ _ _ _ _, _, admitted, _, speaks, known =>
      known_whereDate known (congrArg Dialect.vendor speaks) (Option.or_eq_none_iff.mp admitted).1
  | .whereRaw _ _ _, _, _, _, _, known => known_whereRaw known
  | .applyScope steps, unmerged, admitted, builder, speaks, known =>
      known_applyScope (known_run dialect steps unmerged admitted builder speaks known)
  | .having _ _ _ _, _, admitted, _, speaks, known =>
      known_having known (congrArg Dialect.vendor speaks) (Option.or_eq_none_iff.mp admitted).1
  | .havingRaw _ _ _, _, _, _, _, known => known_havingRaw known
  | .orderBy _ _, _, _, _, _, known | .offset _, _, _, _, _, known
  | .forPage _ _, _, _, _, _, known => known_changeWindow known _
  | .orderByRaw sql values, _, _, _, _, known => known_orderByRaw known sql values
  | .limit count, _, _, _, _, known => known_limit known count
  | .union keepsDuplicates steps, unmerged, admitted, builder, speaks, known =>
      known_union known keepsDuplicates (known_run dialect steps unmerged
        ((accepted_iff dialect steps).mp admitted) builder.fresh speaks (.empty none))
  | .setBindings values bucket, _, _, _, _, known => known_setBindings known values bucket
  | .addBinding value bucket, _, _, _, _, known => known_addBinding known value bucket

theorem known_run (dialect : Dialect) : ∀ steps : List Step, UnmergedSteps steps →
    Call.firstFault dialect.vendor (dialect.calls steps) = none → ∀ builder : Builder,
    builder.dialect = dialect → builder.query.Known dialect.vendor →
    (builder.run steps).query.Known dialect.vendor
  | [], _, _, _, _, known => known
  | first :: rest, ⟨unmerged, others⟩, admitted, builder, speaks, known => by
      obtain ⟨admitted, behind⟩ := Option.or_eq_none_iff.mp admitted
      refine known_run dialect rest others behind (builder.step first) ?_
        (known_step dialect first unmerged admitted builder speaks known)
      rw [step_eq_call, dialect_call, speaks]

end

end Builder

/-! Chains within a chain -/

mutual

/-- The chains that build the queries of a step on new builders, at any depth. -/
def Step.chains : Step → List (List Step)
  | .selectQuery steps _ => steps :: chainsWithin steps
  | .whereGroup _ steps => chainsWithin steps
  | .whereGroupOf _ steps => steps :: chainsWithin steps
  | .whereQuery _ _ _ steps => steps :: chainsWithin steps
  | .whereInQuery _ _ _ steps => steps :: chainsWithin steps
  | .whereExists _ _ steps => steps :: chainsWithin steps
  | .applyScope steps => chainsWithin steps
  | .union _ steps => steps :: chainsWithin steps
  | _ => []

def chainsWithin : List Step → List (List Step)
  | [] => []
  | first :: rest => first.chains ++ chainsWithin rest

end

namespace Dialect

/-- A chain that may be made on a new builder of the dialect. -/
def Admits (dialect : Dialect) (steps : List Step) : Prop :=
  UnmergedSteps steps ∧ (({ dialect } : Builder).run steps).fault = none

variable {dialect : Dialect}

theorem Admits.known {steps : List Step} (admits : dialect.Admits steps) :
    (({ dialect } : Builder).run steps).query.Known dialect.vendor :=
  Builder.known_run dialect steps admits.1 ((Builder.accepted_iff dialect steps).mp admits.2) _ rfl
    (.empty none)

theorem Admits.cons {steps inner : List Step} {chains : List (List Step)}
    (admits : dialect.Admits steps) (deeper : ∀ inner ∈ chains, dialect.Admits inner)
    (member : inner ∈ steps :: chains) : dialect.Admits inner := by
  rcases List.mem_cons.mp member with rfl | member
  · exact admits
  · exact deeper inner member

mutual

theorem admits_chains_step (dialect : Dialect) : ∀ step : Step, step.Unmerged →
    (dialect.call step).refusal dialect.vendor = none →
    ∀ inner ∈ step.chains, dialect.Admits inner
  | .selectQuery steps _, unmerged, accepted, _, member
  | .whereGroupOf _ steps, unmerged, accepted, _, member
  | .whereInQuery _ _ _ steps, unmerged, accepted, _, member
  | .whereExists _ _ steps, unmerged, accepted, _, member
  | .union _ steps, unmerged, accepted, _, member =>
      Admits.cons ⟨unmerged, accepted⟩ (admits_chainsWithin dialect steps unmerged
        ((Builder.accepted_iff dialect steps).mp accepted)) member
  | .whereQuery _ _ _ steps, unmerged, admitted, _, member => by
      obtain ⟨-, accepted⟩ := Option.or_eq_none_iff.mp admitted
      exact Admits.cons ⟨unmerged, accepted⟩ (admits_chainsWithin dialect steps unmerged
        ((Builder.accepted_iff dialect steps).mp accepted)) member
  | .whereGroup _ steps, unmerged, admitted, inner, member
  | .applyScope steps, unmerged, admitted, inner, member =>
      admits_chainsWithin dialect steps unmerged admitted inner member
  | .table _, _, _, _, member | .select _, _, _, _, member | .addSelect _, _, _, _, member
  | .selectRaw _ _, _, _, _, member | .distinct, _, _, _, member | .join _, _, _, _, member
  | .whereCompare _ _ _ _, _, _, _, member | .whereAll _, _, _, _, member
  | .whereRecord _, _, _, _, member | .whereColumns _ _ _ _, _, _, _, member
  | .whereIn _ _ _ _, _, _, _, member | .whereNull _ _ _, _, _, _, member
  | .whereBetween _ _ _ _ _, _, _, _, member | .whereDate _ _ _ _ _, _, _, _, member
  | .whereRaw _ _ _, _, _, _, member | .groupBy _, _, _, _, member
  | .having _ _ _ _, _, _, _, member | .havingRaw _ _ _, _, _, _, member
  | .orderBy _ _, _, _, _, member | .orderByRaw _ _, _, _, _, member | .limit _, _, _, _, member
  | .offset _, _, _, _, member | .forPage _ _, _, _, _, member | .lock _, _, _, _, member
  | .setBindings _ _, _, _, _, member | .addBinding _ _, _, _, _, member
  | .mergeBindings _, _, _, _, member | .mergeWheres _ _, _, _, _, member =>
      absurd member List.not_mem_nil

theorem admits_chainsWithin (dialect : Dialect) : ∀ steps : List Step, UnmergedSteps steps →
    Builder.Call.firstFault dialect.vendor (dialect.calls steps) = none →
    ∀ inner ∈ chainsWithin steps, dialect.Admits inner
  | [], _, _, _, member => absurd member List.not_mem_nil
  | first :: rest, ⟨unmerged, others⟩, admitted, inner, member => by
      obtain ⟨admitted, behind⟩ := Option.or_eq_none_iff.mp admitted
      rcases List.mem_append.mp member with member | member
      · exact admits_chains_step dialect first unmerged admitted inner member
      · exact admits_chainsWithin dialect rest others behind inner member

end

theorem Admits.within {steps inner : List Step} (admits : dialect.Admits steps)
    (member : inner ∈ chainsWithin steps) : dialect.Admits inner :=
  admits_chainsWithin dialect steps admits.1 ((Builder.accepted_iff dialect steps).mp admits.2)
    inner member

end Dialect

theorem Vendor.knowsAll_iff {vendor : Vendor} {operators : List String} :
    vendor.KnowsAll operators ↔
      ∀ operator ∈ operators, Text.asciiLower operator ∈ vendor.operators := by
  unfold KnowsAll knowsOperator
  simp only [List.contains_iff_mem]

/-- All operators of an accepted chain are known, and those that its statements write are among
them; the same holds of each chain within it. -/
theorem written_operators_are_known (dialect : Dialect) (steps : List Step)
    (unmerged : UnmergedSteps steps) (accepted : (({ dialect } : Builder).run steps).fault = none) :
    let query := (({ dialect } : Builder).run steps).query
    (∀ operator ∈ query.operators, Text.asciiLower operator ∈ dialect.vendor.operators) ∧
    query.mapOperators id = query ∧
    Writes query.operators (fun f => dialect.select (query.mapOperators f)) ∧
    (∀ record sql, dialect.update query record = .ok sql →
      ∃ operators text, operators ⊆ query.operators ∧ Writes operators text ∧
        ∀ f, dialect.update (query.mapOperators f) record = .ok (text f)) ∧
    (∀ sql, dialect.delete query = .ok sql →
      ∃ operators text, operators ⊆ query.operators ∧ Writes operators text ∧
        ∀ f, dialect.delete (query.mapOperators f) = .ok (text f)) ∧
    ∀ inner ∈ chainsWithin steps, (({ dialect } : Builder).run inner).fault = none ∧
      ∀ operator ∈ (({ dialect } : Builder).run inner).query.operators,
        Text.asciiLower operator ∈ dialect.vendor.operators := by
  intro query
  have admits : dialect.Admits steps := ⟨unmerged, accepted⟩
  have changed : Join.operators query.joins ++ Clause.operators query.wheres ⊆ query.operators :=
    query.changed_operators_subset
  refine ⟨?known, query.mapOperators_id, dialect.writes_select query, ?update, ?delete, ?inner⟩
  case known => exact Vendor.knowsAll_iff.mp (Query.Known.iff_knowsAll.mp admits.known)
  case update =>
    intro record sql compiled
    obtain ⟨text, writes, spelled⟩ := Dialect.writes_update compiled
    exact ⟨_, text, changed, writes, spelled⟩
  case delete =>
    intro sql compiled
    obtain ⟨text, writes, spelled⟩ := Dialect.writes_delete compiled
    exact ⟨_, text, changed, writes, spelled⟩
  case inner =>
    intro inner member
    have within := admits.within member
    exact ⟨within.2, Vendor.knowsAll_iff.mp (Query.Known.iff_knowsAll.mp within.known)⟩

/-- Operators in any letters, in every kind of place. -/
def comparedSteps : List Step :=
  [.selectQuery [.table (.named "logs"), .whereRaw .and "1 = 1" [],
      .whereCompare .and (.named "level") "Rlike" (.bound (.text "^w"))] "warnings",
    .table (.named "users"),
    .join ⟨.left, .named "teams", [⟨.and, .named "teams.id", "<=>", .column (.named "team_id")⟩]⟩,
    .whereGroup .and [.whereCompare .and (.named "name") "Sounds LIKE" (.bound (.text "ann")),
      .whereDate .or .year (.named "born") ">=" (.bound (.integer 1990))],
    .whereQuery .and (.named "score") "<" [.table (.named "marks"),
      .whereColumns .and (.named "marks.user_id") "=" (.named "users.id")],
    .having .and (.named "team_id") "!=" (.bound (.integer 3)),
    .union true [.table (.named "guests"),
      .whereCompare .and (.named "name") "NOT REGEXP" (.bound (.text "^x"))]]

theorem compared_operators_are_known :
    let query := (({ dialect := Vendor.mysql.dialect } : Builder).run comparedSteps).query
    query.operators = ["<=>", "Sounds LIKE", ">=", "<", "=", "!=", "NOT REGEXP"] ∧
      ∀ operator ∈ query.operators, Text.asciiLower operator ∈ Vendor.mysql.operators := by
  refine ⟨rfl, (written_operators_are_known Vendor.mysql.dialect comparedSteps ?_ rfl).1⟩
  simp [comparedSteps, UnmergedSteps, Step.Unmerged]

end SqlToolkit
