import SqlToolkit.Proofs.Chains.Calls
import SqlToolkit.Proofs.Draft.Steps
/-!
Interleavings: each call belongs to one part of a select statement, and what a builder holds of a
part is changed by the calls of that part alone and depends on nothing else. So the calls of
different parts may be made in any order.
-/

namespace SqlToolkit

namespace Builder

inductive Part where
  | projection
  | table
  | joins
  | wheres
  | groups
  | havings
  | window
  | lock
  deriving DecidableEq

/-- The part that a call belongs to. A union changes where the window goes, a scope may call
anything, and a call that edits the values by hand may go to any of them. -/
def Call.part? : Call → Option Part
  | .table _ => some .table
  | .select _ => some .projection
  | .addSelect _ => some .projection
  | .selectRaw _ _ => some .projection
  | .selectQuery _ _ => some .projection
  | .distinct => some .projection
  | .join _ => some .joins
  | .whereCompare _ _ _ _ => some .wheres
  | .whereGroup _ _ => some .wheres
  | .whereGroupOf _ _ => some .wheres
  | .whereQuery _ _ _ _ => some .wheres
  | .whereColumns _ _ _ _ => some .wheres
  | .whereIn _ _ _ _ => some .wheres
  | .whereInQuery _ _ _ _ => some .wheres
  | .whereNull _ _ _ => some .wheres
  | .whereBetween _ _ _ _ _ => some .wheres
  | .whereExists _ _ _ => some .wheres
  | .whereDate _ _ _ _ _ => some .wheres
  | .whereRaw _ _ _ => some .wheres
  | .mergeWheres _ _ => some .wheres
  | .groupBy _ => some .groups
  | .having _ _ _ _ => some .havings
  | .havingRaw _ _ _ => some .havings
  | .orderBy _ _ => some .window
  | .orderByRaw _ _ => some .window
  | .limit _ => some .window
  | .offset _ => some .window
  | .forPage _ _ => some .window
  | .lock _ => some .lock
  | .applyScope _ => none
  | .union _ _ => none
  | .setBindings _ _ => none
  | .addBinding _ _ => none
  | .mergeBindings _ => none

/-- A builder that holds of another one what belongs to a part, and nothing else. Where the window
goes depends on the branches of the union, so these stay with it. -/
def share (builder : Builder) : Part → Builder
  | .projection =>
      { dialect := builder.dialect
        query := { columns := builder.query.columns, distinct := builder.query.distinct,
                   aggregate := builder.query.aggregate }
        bindings := { projection := builder.bindings.projection } }
  | .table => { dialect := builder.dialect, query := { table := builder.query.table } }
  | .joins =>
      { dialect := builder.dialect
        query := { joins := builder.query.joins }
        bindings := { join := builder.bindings.join } }
  | .wheres =>
      { dialect := builder.dialect
        query := { wheres := builder.query.wheres }
        bindings := { filter := builder.bindings.filter } }
  | .groups => { dialect := builder.dialect, query := { groups := builder.query.groups } }
  | .havings =>
      { dialect := builder.dialect
        query := { havings := builder.query.havings }
        bindings := { having := builder.bindings.having } }
  | .window =>
      { dialect := builder.dialect
        query := { window := builder.query.window, unions := builder.query.unions,
                   unionWindow := builder.query.unionWindow }
        bindings := { order := builder.bindings.order, union := builder.bindings.union } }
  | .lock => { dialect := builder.dialect, query := { lock := builder.query.lock } }

theorem share_dialect (builder : Builder) (part : Part) :
    (builder.share part).dialect = builder.dialect := by
  cases part <;> rfl

/-- The shares of a builder make up its query and its values. -/
theorem ext_shares {first second : Builder} (same : ∀ part, first.share part = second.share part) :
    first.query = second.query ∧ first.bindings = second.bindings := by
  obtain ⟨dialect, ⟨_, _, _, _, _, _, _, _, _, _, _, _⟩, ⟨_, _, _, _, _, _⟩, _⟩ := first
  obtain ⟨dialect, ⟨_, _, _, _, _, _, _, _, _, _, _, _⟩, ⟨_, _, _, _, _, _⟩, _⟩ := second
  have projection := same .projection
  have table := same .table
  have joins := same .joins
  have wheres := same .wheres
  have groups := same .groups
  have havings := same .havings
  have window := same .window
  have lock := same .lock
  simp only [share, Builder.mk.injEq, Query.mk.injEq, Bindings.mk.injEq] at *
  simp [*]

theorem share_share (builder : Builder) (part : Part) :
    (builder.share part).share part = builder.share part := by
  cases part <;> rfl

theorem share_fail (builder : Builder) (fault : Fault) (part : Part) :
    (builder.fail fault).share part = builder.share part := by
  cases part <;> rfl

theorem share_absorb (builder other : Builder) (part : Part) :
    (builder.absorb other).share part = builder.share part := by
  cases part <;> rfl

/-! What a call leaves alone -/

/-- Apart from one part, the builders hold the same. -/
def Touches (part : Part) (before after : Builder) : Prop :=
  ∀ other, other ≠ part → after.share other = before.share other

namespace Touches

variable {part : Part} {builder next : Builder}

theorem refl (part : Part) (builder : Builder) : Touches part builder builder :=
  fun _ _ => rfl

theorem fail (part : Part) (builder : Builder) (fault : Fault) :
    Touches part builder (builder.fail fault) :=
  fun other _ => builder.share_fail fault other

theorem checked (operator : String) (touches : Touches part builder next) :
    Touches part builder (builder.checked operator next) := by
  unfold Builder.checked
  split
  · exact touches
  · exact fail part builder _

theorem absorbed {sub : Builder} (touches : Touches part (builder.absorb sub) next) :
    Touches part builder next :=
  fun other differs => (touches other differs).trans (builder.share_absorb sub other)

theorem addWhere (builder : Builder) (values : List Value) (connective : Connective)
    (predicate : Predicate) :
    Touches .wheres builder ((builder.bind .filter values).addWhere connective predicate) := by
  intro other differs
  cases other with
  | wheres => exact absurd rfl differs
  | _ => rfl

theorem addTest (builder : Builder) (connective : Connective) (predicate : Predicate) :
    Touches .wheres builder (builder.addWhere connective predicate) := by
  intro other differs
  cases other with
  | wheres => exact absurd rfl differs
  | _ => rfl

theorem whereCompare (builder : Builder) (connective : Connective) (column : Identifier)
    (operator : String) (operand : Operand) :
    Touches .wheres builder (builder.whereCompare connective column operator operand) := by
  unfold Builder.whereCompare
  split
  · split
    · exact addTest builder connective _
    · split
      · exact addTest builder connective _
      · exact fail .wheres builder _
  · exact (addWhere builder _ connective _).checked operator

theorem whereGroupOf (builder nested : Builder) (connective : Connective) :
    Touches .wheres builder (builder.whereGroupOf connective nested) := by
  unfold Builder.whereGroupOf
  dsimp only
  split
  · exact absorbed (refl .wheres _)
  · exact absorbed (addWhere _ _ connective _)

theorem addHaving (builder : Builder) (values : List Value) (connective : Connective)
    (predicate : Predicate) :
    Touches .havings builder ((builder.bind .having values).addHaving connective predicate) := by
  intro other differs
  cases other with
  | havings => exact absurd rfl differs
  | _ => rfl

theorem changeWindow (builder : Builder) (f : Window → Window) :
    Touches .window builder (builder.changeWindow f) := by
  intro other differs
  unfold Builder.changeWindow change
  dsimp only
  split
  · cases other with
    | window => exact absurd rfl differs
    | _ => rfl
  · cases other with
    | window => exact absurd rfl differs
    | _ => rfl

theorem orderByRaw (builder : Builder) (sql : String) (values : List Value) :
    Touches .window builder (builder.orderByRaw sql values) := by
  intro other differs
  unfold Builder.orderByRaw Builder.addOrder
  dsimp only
  rw [changeWindow _ _ other differs]
  split
  · cases other with
    | window => exact absurd rfl differs
    | _ => rfl
  · cases other with
    | window => exact absurd rfl differs
    | _ => rfl

theorem call {call : Call} (builder : Builder) (belongs : call.part? = some part) :
    Touches part builder (builder.call call) := by
  cases call with
  | join join =>
      cases belongs
      change Touches .joins builder (builder.join join)
      unfold Builder.join
      split
      · exact fail .joins builder _
      · intro other differs
        cases other with
        | joins => exact absurd rfl differs
        | _ => rfl
  | whereCompare connective column operator operand =>
      cases belongs
      exact whereCompare builder connective column operator operand
  | whereGroup connective calls =>
      cases belongs
      exact whereGroupOf builder _ connective
  | whereGroupOf connective nested =>
      cases belongs
      exact whereGroupOf builder nested connective
  | whereQuery connective column operator sub =>
      cases belongs
      exact (absorbed (addWhere _ _ connective _)).checked operator
  | whereColumns connective first operator second =>
      cases belongs
      exact (addTest builder connective _).checked operator
  | whereDate connective part column operator operand =>
      cases belongs
      exact (addWhere builder _ connective _).checked operator
  | having connective column operator operand =>
      cases belongs
      exact (addHaving builder _ connective _).checked operator
  | orderBy column direction =>
      cases belongs
      exact changeWindow builder _
  | orderByRaw sql values =>
      cases belongs
      exact orderByRaw builder sql values
  | limit count =>
      cases belongs
      change Touches .window builder (builder.limit count)
      unfold Builder.limit
      split
      · exact fail .window builder _
      · exact changeWindow builder _
  | offset count =>
      cases belongs
      exact changeWindow builder _
  | forPage page perPage =>
      cases belongs
      exact changeWindow builder _
  | _ =>
      cases belongs <;>
      · intro other differs
        cases other <;> first | rfl | exact absurd rfl differs

end Touches

/-! What a call depends on -/

theorem share_checked {builder next other : Builder} {part : Part} (operator : String)
    (same : next.share part = other.share part) :
    (builder.checked operator next).share part =
      ((builder.share part).checked operator other).share part := by
  unfold checked
  rw [share_dialect]
  split
  · exact same
  · rw [share_fail, share_fail, share_share]

theorem share_whereCompare (builder : Builder) (connective : Connective) (column : Identifier)
    (operator : String) (operand : Operand) :
    (builder.whereCompare connective column operator operand).share .wheres =
      ((builder.share .wheres).whereCompare connective column operator operand).share .wheres := by
  unfold whereCompare
  split
  · split
    · rfl
    · split <;> rfl
  · exact share_checked operator rfl

theorem share_whereGroupOf {builder nested other : Builder} (connective : Connective)
    (same : nested.share .wheres = other.share .wheres) :
    (builder.whereGroupOf connective nested).share .wheres =
      ((builder.share .wheres).whereGroupOf connective other).share .wheres := by
  have wheres : nested.query.wheres = other.query.wheres := by
    change (nested.share .wheres).query.wheres = (other.share .wheres).query.wheres
    rw [same]
  have filter : nested.bindings.filter = other.bindings.filter := by
    change (nested.share .wheres).bindings.filter = (other.share .wheres).bindings.filter
    rw [same]
  unfold whereGroupOf
  rw [wheres, filter]
  dsimp only
  split <;> rfl

theorem share_wheres_applyScope {builder : Builder} {first second : Builder → Builder}
    (same : (first builder).share .wheres = (second (builder.share .wheres)).share .wheres) :
    (builder.applyScope first).share .wheres =
      ((builder.share .wheres).applyScope second).share .wheres := by
  have regrouped : ∀ (f : List Clause → List Clause) (inner : Builder),
      (inner.change fun query => { query with wheres := f query.wheres }).share .wheres =
        ((inner.share .wheres).change fun query =>
          { query with wheres := f query.wheres }).share .wheres := fun _ _ => rfl
  have length : (builder.share .wheres).query.wheres.length = builder.query.wheres.length := rfl
  unfold applyScope
  rw [length]
  dsimp only
  split
  · exact same
  · rw [regrouped, same, ← regrouped]

theorem share_of_other {call : Call} {part other : Part} (builder : Builder)
    (belongs : call.part? = some part) (differs : other ≠ part) :
    (builder.call call).share other = ((builder.share other).call call).share other := by
  rw [Touches.call builder belongs other differs,
    Touches.call (builder.share other) belongs other differs, share_share]

mutual

/-- The predicates that a call adds, of whatever part it is, do not depend on any other part. -/
theorem share_wheres_call (builder : Builder) : ∀ call : Call,
    (builder.call call).share .wheres = ((builder.share .wheres).call call).share .wheres
  | .table _ | .select _ | .addSelect _ | .selectRaw _ _ | .selectQuery _ _ | .distinct
  | .whereIn _ _ _ _ | .whereInQuery _ _ _ _ | .whereNull _ _ _ | .whereBetween _ _ _ _ _
  | .whereExists _ _ _ | .whereRaw _ _ _ | .groupBy _ | .havingRaw _ _ _ | .union _ _ | .lock _
  | .mergeBindings _ | .mergeWheres _ _ => rfl
  | .join _ | .having _ _ _ _ | .orderBy _ _ | .orderByRaw _ _ | .limit _ | .offset _
  | .forPage _ _ => share_of_other builder rfl nofun
  | .whereCompare connective column operator operand =>
      builder.share_whereCompare connective column operator operand
  | .whereGroup connective calls => by
      refine share_whereGroupOf connective ?_
      rw [share_wheres_calls calls, share_wheres_calls calls (fresh _ |>.change _)]
      rfl
  | .whereGroupOf connective nested => share_whereGroupOf connective rfl
  | .whereQuery _ _ operator _ | .whereColumns _ _ operator _ | .whereDate _ _ _ operator _ =>
      share_checked operator rfl
  | .applyScope calls => share_wheres_applyScope (share_wheres_calls calls builder)
  | .setBindings values bucket => by
      change (builder.setBindings values bucket).share .wheres =
        ((builder.share .wheres).setBindings values bucket).share .wheres
      unfold setBindings
      cases Bucket.ofName bucket with
      | ok bucket => cases bucket <;> rfl
      | error fault => rfl
  | .addBinding value bucket => by
      change (builder.addBinding value bucket).share .wheres =
        ((builder.share .wheres).addBinding value bucket).share .wheres
      unfold addBinding
      cases Bucket.ofName bucket with
      | ok bucket => cases bucket <;> rfl
      | error fault => rfl

theorem share_wheres_calls : ∀ (calls : List Call) (builder : Builder),
    (builder.calls calls).share .wheres = ((builder.share .wheres).calls calls).share .wheres
  | [], builder => (builder.share_share .wheres).symm
  | first :: rest, builder => by
      change ((builder.call first).calls rest).share .wheres =
        (((builder.share .wheres).call first).calls rest).share .wheres
      rw [share_wheres_calls rest (builder.call first), share_wheres_call builder first,
        ← share_wheres_calls rest]

end

theorem share_changeWindow (builder : Builder) (f : Window → Window) :
    (builder.changeWindow f).share .window =
      ((builder.share .window).changeWindow f).share .window := by
  have branches : (builder.share .window).query.unions = builder.query.unions := rfl
  unfold changeWindow change
  dsimp only
  rw [branches]
  split <;> rfl

theorem share_orderByRaw (builder : Builder) (sql : String) (values : List Value) :
    (builder.orderByRaw sql values).share .window =
      ((builder.share .window).orderByRaw sql values).share .window := by
  have branches : (builder.share .window).query.unions = builder.query.unions := rfl
  unfold orderByRaw addOrder
  dsimp only
  rw [share_changeWindow, share_changeWindow ((builder.share .window).bind _ values), branches]
  split <;> rfl

theorem share_call {call : Call} {part : Part} (builder : Builder)
    (belongs : call.part? = some part) :
    (builder.call call).share part = ((builder.share part).call call).share part := by
  cases part with
  | wheres => exact builder.share_wheres_call call
  | joins =>
      cases call with
      | join join =>
          change (builder.join join).share .joins =
            ((builder.share .joins).join join).share .joins
          unfold Builder.join
          rw [share_dialect]
          split <;> rfl
      | _ => cases belongs
  | havings =>
      cases call with
      | having connective column operator operand => exact share_checked operator rfl
      | havingRaw connective sql values => rfl
      | _ => cases belongs
  | window =>
      cases call with
      | orderBy column direction => exact builder.share_changeWindow _
      | orderByRaw sql values => exact builder.share_orderByRaw sql values
      | limit count =>
          change (builder.limit count).share .window =
            ((builder.share .window).limit count).share .window
          unfold limit
          split
          · rfl
          · exact builder.share_changeWindow _
      | offset count => exact builder.share_changeWindow _
      | forPage page perPage => exact builder.share_changeWindow _
      | _ => cases belongs
  | _ =>
      cases call with
      | _ => first | rfl | cases belongs

theorem share_calls {calls : List Call} {part : Part} {first second : Builder}
    (belong : ∀ call ∈ calls, call.part? = some part)
    (same : first.share part = second.share part) :
    (first.calls calls).share part = (second.calls calls).share part := by
  induction calls generalizing first second with
  | nil => exact same
  | cons call rest ih =>
      have belongs := belong call List.mem_cons_self
      refine ih (fun call member => belong call (List.mem_cons_of_mem _ member)) ?_
      rw [share_call first belongs, same, ← share_call second belongs]

/-- A chain leaves of a part what its calls of that part alone leave of it. -/
theorem share_calls_filter {calls : List Call} (part : Part) (builder : Builder)
    (belong : ∀ call ∈ calls, call.part?.isSome) :
    (builder.calls calls).share part =
      (builder.calls (calls.filter fun call => call.part? = some part)).share part := by
  induction calls generalizing builder with
  | nil => rfl
  | cons call rest ih =>
      obtain ⟨own, belongs⟩ := Option.isSome_iff_exists.mp (belong call List.mem_cons_self)
      have tail := ih (builder.call call)
        fun call member => belong call (List.mem_cons_of_mem _ member)
      by_cases same : own = part
      · subst same
        rw [List.filter_cons_of_pos (by simpa using belongs)]
        exact tail
      · rw [List.filter_cons_of_neg (by simpa [belongs] using same)]
        refine tail.trans (share_calls (fun call member => ?_) ?_)
        · simpa using (List.mem_filter.mp member).2
        · exact Touches.call builder belongs part (Ne.symm same)

theorem calls_interleaved (builder : Builder) {first second : List Call}
    (belong : ∀ call ∈ first ++ second, call.part?.isSome)
    (same : ∀ part, first.filter (fun call => call.part? = some part) =
      second.filter fun call => call.part? = some part) :
    (builder.calls first).query = (builder.calls second).query ∧
      (builder.calls first).bindings = (builder.calls second).bindings := by
  have before : ∀ call ∈ first, call.part?.isSome :=
    fun call member => belong call (List.mem_append_left _ member)
  have behind : ∀ call ∈ second, call.part?.isSome :=
    fun call member => belong call (List.mem_append_right _ member)
  refine ext_shares fun part => ?_
  rw [share_calls_filter part builder before, share_calls_filter part builder behind, same part]

theorem statement_eq {builder : Builder} (accepted : builder.fault = none) :
    builder.statement =
      .ok ⟨builder.dialect.select builder.query, builder.bindings.flatten⟩ := by
  rw [statement, sql, sound, accepted]
  rfl

end Builder

/-- Chains that make the same calls for each part, in whichever order the parts come, give one
statement. -/
theorem interleaved_chains_give_one_statement (builder : Builder) (first second : List Builder.Call)
    (belong : ∀ call ∈ first ++ second, call.part?.isSome)
    (same : ∀ part, first.filter (fun call => call.part? = some part) =
      second.filter fun call => call.part? = some part)
    (firstAccepted : (builder.calls first).fault = none)
    (secondAccepted : (builder.calls second).fault = none) :
    ∃ statement, (builder.calls first).statement = .ok statement ∧
      (builder.calls second).statement = .ok statement := by
  obtain ⟨query, bindings⟩ := builder.calls_interleaved belong same
  refine ⟨_, Builder.statement_eq firstAccepted, ?_⟩
  rw [Builder.statement_eq secondAccepted, Builder.dialect_calls, Builder.dialect_calls, query,
    bindings]

/-- Values in every bucket but that of the unions, and a group whose predicates name the table. -/
def clauseByClause : List Builder.Call :=
  [.table (.named "users"), .selectRaw "? AS one" [.integer 1], .distinct,
    .join ⟨.inner, .named "teams", [⟨.and, .named "teams.id", "=", .value (.bound (.integer 2))⟩]⟩,
    .whereGroup .and [.whereCompare .and (.named "age") ">" (.bound (.integer 3)),
      .table (.named "others")],
    .whereRaw .or "score > ?" [.integer 4], .groupBy [.named "team_id"],
    .having .and (.named "team_id") ">=" (.bound (.integer 5)),
    .orderByRaw "rank = ?" [.integer 6], .limit 7, .lock .forUpdate]

def backToFront : List Builder.Call :=
  [.lock .forUpdate, .orderByRaw "rank = ?" [.integer 6],
    .having .and (.named "team_id") ">=" (.bound (.integer 5)), .groupBy [.named "team_id"],
    .whereGroup .and [.whereCompare .and (.named "age") ">" (.bound (.integer 3)),
      .table (.named "others")],
    .limit 7, .selectRaw "? AS one" [.integer 1],
    .join ⟨.inner, .named "teams", [⟨.and, .named "teams.id", "=", .value (.bound (.integer 2))⟩]⟩,
    .whereRaw .or "score > ?" [.integer 4], .table (.named "users"), .distinct]

theorem back_to_front_gives_the_same_statement :
    ∃ statement,
      (({ dialect := Vendor.postgres.dialect } : Builder).calls clauseByClause).statement =
        .ok statement ∧
      (({ dialect := Vendor.postgres.dialect } : Builder).calls backToFront).statement =
        .ok statement := by
  refine interleaved_chains_give_one_statement _ clauseByClause backToFront ?belong ?same rfl rfl
  case belong => decide
  case same =>
    intro part
    cases part <;> rfl

end SqlToolkit
