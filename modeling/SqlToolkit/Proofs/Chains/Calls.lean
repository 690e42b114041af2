import SqlToolkit.Query.Step
/-!
Calls: what can be called on a builder. A query inside the query is handed over as a finished
builder, of whatever origin; a group or a scope is the chain of calls that it makes on the builder
that it is given.
-/

namespace SqlToolkit

namespace Builder

inductive Call where
  | table (table : Identifier)
  | select (columns : List Identifier)
  | addSelect (columns : List Identifier)
  | selectRaw (sql : String) (values : List Value)
  | selectQuery (sub : Builder) (shown : String)
  | distinct
  | join (join : Join)
  | whereCompare (connective : Connective) (column : Identifier) (operator : String)
      (operand : Operand)
  | whereGroup (connective : Connective) (calls : List Call)
  | whereGroupOf (connective : Connective) (nested : Builder)
  | whereQuery (connective : Connective) (column : Identifier) (operator : String) (sub : Builder)
  | whereColumns (connective : Connective) (first : Identifier) (operator : String)
      (second : Identifier)
  | whereIn (connective : Connective) (negated : Bool) (column : Identifier)
      (operands : List Operand)
  | whereInQuery (connective : Connective) (negated : Bool) (column : Identifier) (sub : Builder)
  | whereNull (connective : Connective) (negated : Bool) (column : Identifier)
  | whereBetween (connective : Connective) (negated : Bool) (column : Identifier)
      (low high : Operand)
  | whereExists (connective : Connective) (negated : Bool) (sub : Builder)
  | whereDate (connective : Connective) (part : DatePart) (column : Identifier) (operator : String)
      (operand : Operand)
  | whereRaw (connective : Connective) (sql : String) (values : List Value)
  | applyScope (calls : List Call)
  | groupBy (columns : List Identifier)
  | having (connective : Connective) (column : Identifier) (operator : String) (operand : Operand)
  | havingRaw (connective : Connective) (sql : String) (values : List Value)
  | orderBy (column : Identifier) (direction : Direction)
  | orderByRaw (sql : String) (values : List Value)
  | limit (count : Int)
  | offset (count : Int)
  | forPage (page perPage : Nat)
  | union (keepsDuplicates : Bool) (other : Builder)
  | lock (lock : Lock)
  | setBindings (values : List Value) (bucket : String)
  | addBinding (value : Value) (bucket : String)
  | mergeBindings (other : Builder)
  | mergeWheres (wheres : List Clause) (values : List Value)

mutual

def call (builder : Builder) : Call → Builder
  | .table table => builder.table table
  | .select columns => builder.select columns
  | .addSelect columns => builder.addSelect columns
  | .selectRaw sql values => builder.selectRaw sql values
  | .selectQuery sub shown => builder.selectQuery sub shown
  | .distinct => builder.distinct
  | .join join => builder.join join
  | .whereCompare connective column operator operand =>
      builder.whereCompare connective column operator operand
  | .whereGroup connective calls =>
      builder.whereGroup connective fun nested => nested.calls calls
  | .whereGroupOf connective nested => builder.whereGroupOf connective nested
  | .whereQuery connective column operator sub =>
      builder.whereQuery connective column operator sub
  | .whereColumns connective first operator second =>
      builder.whereColumns connective first operator second
  | .whereIn connective negated column operands =>
      builder.whereIn connective negated column operands
  | .whereInQuery connective negated column sub =>
      builder.whereInQuery connective negated column sub
  | .whereNull connective negated column => builder.whereNull connective negated column
  | .whereBetween connective negated column low high =>
      builder.whereBetween connective negated column low high
  | .whereExists connective negated sub => builder.whereExists connective negated sub
  | .whereDate connective part column operator operand =>
      builder.whereDate connective part column operator operand
  | .whereRaw connective sql values => builder.whereRaw connective sql values
  | .applyScope calls => builder.applyScope fun inner => inner.calls calls
  | .groupBy columns => builder.groupBy columns
  | .having connective column operator operand =>
      builder.having connective column operator operand
  | .havingRaw connective sql values => builder.havingRaw connective sql values
  | .orderBy column direction => builder.orderBy column direction
  | .orderByRaw sql values => builder.orderByRaw sql values
  | .limit count => builder.limit count
  | .offset count => builder.offset count
  | .forPage page perPage => builder.forPage page perPage
  | .union keepsDuplicates other => builder.union keepsDuplicates other
  | .lock lock => builder.lock lock
  | .setBindings values bucket => builder.setBindings values bucket
  | .addBinding value bucket => builder.addBinding value bucket
  | .mergeBindings other => builder.mergeBindings other
  | .mergeWheres wheres values => builder.mergeWheres wheres values

def calls (builder : Builder) : List Call → Builder
  | [] => builder
  | first :: rest => (builder.call first).calls rest

end

namespace Call

/-! A list of conditions and a record of equalities are groups that compare one column after the
other. -/

def whereAll (conditions : List (Identifier × String × Operand)) : Call :=
  .whereGroup .and (conditions.map fun (column, operator, operand) =>
    .whereCompare .and column operator operand)

def whereRecord (record : Record) : Call :=
  whereAll (record.entries.map fun (column, operand) => (.named column, "=", operand))

end Call

/-- Predicates from a place on, if there are any, become one group behind those before it. -/
theorem groupFrom_cases (place : Nat) (wheres : List Clause) :
    groupFrom place wheres = wheres ∨ ∃ front first rest, wheres = front ++ first :: rest ∧
      groupFrom place wheres = front ++ [⟨first.connective, .group (first :: rest)⟩] := by
  unfold groupFrom
  have whole := List.take_append_drop place wheres
  cases dropped : wheres.drop place with
  | nil => exact .inl rfl
  | cons first rest =>
      rw [dropped] at whole
      exact .inr ⟨_, first, rest, whole.symm, rfl⟩

theorem calls_compare (builder : Builder) (conditions : List (Identifier × String × Operand)) :
    builder.calls (conditions.map fun (column, operator, operand) =>
      .whereCompare .and column operator operand) =
      conditions.foldl (fun nested (column, operator, operand) =>
        nested.whereCompare .and column operator operand) builder := by
  induction conditions generalizing builder with
  | nil => rfl
  | cons first rest ih => exact ih _

theorem call_whereAll (builder : Builder) (conditions : List (Identifier × String × Operand)) :
    builder.call (.whereAll conditions) = builder.whereAll conditions :=
  congrArg (builder.whereGroupOf .and) (calls_compare _ conditions)

theorem call_whereRecord (builder : Builder) (record : Record) :
    builder.call (.whereRecord record) = builder.whereRecord record :=
  builder.call_whereAll _

end Builder

/-! Steps are calls whose queries are built on empty builders -/

namespace Dialect

mutual

def call (dialect : Dialect) : Step → Builder.Call
  | .table table => .table table
  | .select columns => .select columns
  | .addSelect columns => .addSelect columns
  | .selectRaw sql values => .selectRaw sql values
  | .selectQuery steps shown => .selectQuery (({ dialect } : Builder).run steps) shown
  | .distinct => .distinct
  | .join join => .join join
  | .whereCompare connective column operator operand =>
      .whereCompare connective column operator operand
  | .whereAll conditions => .whereAll conditions
  | .whereRecord record => .whereRecord record
  | .whereGroup connective steps => .whereGroup connective (dialect.calls steps)
  | .whereGroupOf connective steps =>
      .whereGroupOf connective (({ dialect } : Builder).run steps)
  | .whereQuery connective column operator steps =>
      .whereQuery connective column operator (({ dialect } : Builder).run steps)
  | .whereColumns connective first operator second =>
      .whereColumns connective first operator second
  | .whereIn connective negated column operands => .whereIn connective negated column operands
  | .whereInQuery connective negated column steps =>
      .whereInQuery connective negated column (({ dialect } : Builder).run steps)
  | .whereNull connective negated column => .whereNull connective negated column
  | .whereBetween connective negated column low high =>
      .whereBetween connective negated column low high
  | .whereExists connective negated steps =>
      .whereExists connective negated (({ dialect } : Builder).run steps)
  | .whereDate connective part column operator operand =>
      .whereDate connective part column operator operand
  | .whereRaw connective sql values => .whereRaw connective sql values
  | .applyScope steps => .applyScope (dialect.calls steps)
  | .groupBy columns => .groupBy columns
  | .having connective column operator operand => .having connective column operator operand
  | .havingRaw connective sql values => .havingRaw connective sql values
  | .orderBy column direction => .orderBy column direction
  | .orderByRaw sql values => .orderByRaw sql values
  | .limit count => .limit count
  | .offset count => .offset count
  | .forPage page perPage => .forPage page perPage
  | .union keepsDuplicates steps => .union keepsDuplicates (({ dialect } : Builder).run steps)
  | .lock lock => .lock lock
  | .setBindings values bucket => .setBindings values bucket
  | .addBinding value bucket => .addBinding value bucket
  | .mergeBindings steps => .mergeBindings (({ dialect } : Builder).run steps)
  | .mergeWheres steps values =>
      .mergeWheres (({ dialect } : Builder).run steps).query.wheres values

def calls (dialect : Dialect) : List Step → List Builder.Call
  | [] => []
  | first :: rest => dialect.call first :: dialect.calls rest

end

end Dialect

namespace Builder

/-! No call changes the dialect -/

theorem dialect_checked {builder next : Builder} (operator : String)
    (kept : next.dialect = builder.dialect) :
    (builder.checked operator next).dialect = builder.dialect := by
  unfold checked
  split
  · exact kept
  · rfl

theorem dialect_whereGroupOf (builder nested : Builder) (connective : Connective) :
    (builder.whereGroupOf connective nested).dialect = builder.dialect := by
  unfold whereGroupOf
  dsimp only
  split <;> rfl

theorem dialect_whereCompare (builder : Builder) (connective : Connective) (column : Identifier)
    (operator : String) (operand : Operand) :
    (builder.whereCompare connective column operator operand).dialect = builder.dialect := by
  unfold whereCompare
  split
  · split
    · rfl
    · split <;> rfl
  · exact dialect_checked operator rfl

mutual

theorem dialect_call (builder : Builder) : ∀ call : Call,
    (builder.call call).dialect = builder.dialect
  | .table _ | .select _ | .addSelect _ | .selectRaw _ _ | .selectQuery _ _ | .distinct
  | .whereIn _ _ _ _ | .whereInQuery _ _ _ _ | .whereNull _ _ _ | .whereBetween _ _ _ _ _
  | .whereExists _ _ _ | .whereRaw _ _ _ | .groupBy _ | .havingRaw _ _ _ | .orderBy _ _
  | .orderByRaw _ _ | .offset _ | .forPage _ _ | .union _ _ | .lock _ | .mergeBindings _
  | .mergeWheres _ _ => rfl
  | .join join => by
      change (builder.join join).dialect = builder.dialect
      unfold Builder.join
      split <;> rfl
  | .whereCompare connective column operator operand =>
      builder.dialect_whereCompare connective column operator operand
  | .whereGroup connective _ | .whereGroupOf connective _ =>
      builder.dialect_whereGroupOf _ connective
  | .whereQuery _ _ operator _ | .whereColumns _ _ operator _ | .whereDate _ _ _ operator _
  | .having _ _ operator _ => dialect_checked operator rfl
  | .applyScope calls => by
      change (builder.applyScope fun inner => inner.calls calls).dialect = builder.dialect
      unfold applyScope
      dsimp only
      split <;> exact dialect_calls calls builder
  | .limit count => by
      change (builder.limit count).dialect = builder.dialect
      unfold limit
      split <;> rfl
  | .setBindings values bucket => by
      change (builder.setBindings values bucket).dialect = builder.dialect
      unfold setBindings
      split <;> rfl
  | .addBinding value bucket => by
      change (builder.addBinding value bucket).dialect = builder.dialect
      unfold addBinding
      split <;> rfl

theorem dialect_calls : ∀ (calls : List Call) (builder : Builder),
    (builder.calls calls).dialect = builder.dialect
  | [], _ => rfl
  | first :: rest, builder =>
      (dialect_calls rest (builder.call first)).trans (builder.dialect_call first)

end

/-! Steps -/

/-- A scope is only run on the builder itself. -/
theorem applyScope_congr {builder : Builder} (first second : Builder → Builder)
    (same : first builder = second builder) :
    builder.applyScope first = builder.applyScope second := by
  unfold applyScope
  rw [same]

mutual

theorem step_eq_call (builder : Builder) : ∀ step : Step,
    builder.step step = builder.call (builder.dialect.call step)
  | .table _ | .select _ | .addSelect _ | .selectRaw _ _ | .selectQuery _ _ | .distinct | .join _
  | .whereCompare _ _ _ _ | .whereGroupOf _ _ | .whereQuery _ _ _ _ | .whereColumns _ _ _ _
  | .whereIn _ _ _ _ | .whereInQuery _ _ _ _ | .whereNull _ _ _ | .whereBetween _ _ _ _ _
  | .whereExists _ _ _ | .whereDate _ _ _ _ _ | .whereRaw _ _ _ | .groupBy _ | .having _ _ _ _
  | .havingRaw _ _ _ | .orderBy _ _ | .orderByRaw _ _ | .limit _ | .offset _ | .forPage _ _
  | .union _ _ | .lock _ | .setBindings _ _ | .addBinding _ _ | .mergeBindings _
  | .mergeWheres _ _ => rfl
  | .whereAll conditions => (builder.call_whereAll conditions).symm
  | .whereRecord record => (builder.call_whereRecord record).symm
  | .whereGroup connective steps =>
      congrArg (builder.whereGroupOf connective) (run_eq_calls steps _)
  | .applyScope steps =>
      applyScope_congr (fun inner => inner.run steps)
        (fun inner => inner.calls (builder.dialect.calls steps)) (run_eq_calls steps builder)

theorem run_eq_calls : ∀ (steps : List Step) (builder : Builder),
    builder.run steps = builder.calls (builder.dialect.calls steps)
  | [], _ => rfl
  | first :: rest, builder => by
      change (builder.step first).run rest =
        (builder.call (builder.dialect.call first)).calls (builder.dialect.calls rest)
      rw [step_eq_call builder first, run_eq_calls rest, dialect_call]

end

end Builder

end SqlToolkit
