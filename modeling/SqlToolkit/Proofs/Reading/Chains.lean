import SqlToolkit.Proofs.Operators.Stored
import SqlToolkit.Proofs.Reading.Statements
/-!
Chains of calls without fragments of SQL. Whatever they add to a builder, and whatever is refused or
done to its bindings, the query stays one that reads as its trees.
-/

namespace SqlToolkit

/-! Steps without fragments. Values may be put into the buckets by hand, as they are no text. -/

section Free

variable (words : Vocabulary)

mutual

def Step.Free : Step → Prop
  | .table table => table.IsNamed
  | .select columns => ∀ column ∈ columns, column.IsNamed
  | .addSelect columns => ∀ column ∈ columns, column.IsNamed
  | .selectRaw _ _ => False
  | .selectQuery steps _ => FreeSteps steps
  | .distinct => True
  | .join join => join.IsPlain
  | .whereCompare _ column operator operand =>
      column.Within words ∧ words.operator operator ∧ operand.IsBound
  | .whereAll conditions =>
      ∀ condition ∈ conditions, condition.1.Within words ∧ words.operator condition.2.1 ∧
        condition.2.2.IsBound
  | .whereRecord record => ∀ entry ∈ record.entries, words.column entry.1 ∧ entry.2.IsBound
  | .whereGroup _ steps => FreeSteps steps
  | .whereGroupOf _ steps => FreeSteps steps
  | .whereQuery _ column operator steps =>
      column.Within words ∧ words.operator operator ∧ FreeSteps steps
  | .whereColumns _ first operator second =>
      first.Within words ∧ words.operator operator ∧ second.Within words
  | .whereIn _ _ column operands => column.Within words ∧ ∀ operand ∈ operands, operand.IsBound
  | .whereInQuery _ _ column steps => column.Within words ∧ FreeSteps steps
  | .whereNull _ _ column => column.Within words
  | .whereBetween _ _ column low high => column.Within words ∧ low.IsBound ∧ high.IsBound
  | .whereExists _ _ steps => FreeSteps steps
  | .whereDate _ _ column operator operand =>
      column.Within words ∧ words.operator operator ∧ operand.IsBound
  | .whereRaw _ _ _ => False
  | .applyScope steps => FreeSteps steps
  | .groupBy columns => ∀ column ∈ columns, column.IsNamed
  | .having _ column operator operand =>
      column.Within words ∧ words.operator operator ∧ operand.IsBound
  | .havingRaw _ _ _ => False
  | .orderBy column _ => column.IsNamed
  | .orderByRaw _ _ => False
  | .union _ steps => FreeSteps steps
  | .lock kind => kind.IsPlain
  | .mergeWheres steps _ => FreeSteps steps
  | .limit _ | .offset _ | .forPage _ _ | .setBindings _ _ | .addBinding _ _
  | .mergeBindings _ => True

def FreeSteps : List Step → Prop
  | [] => True
  | first :: rest => first.Free ∧ FreeSteps rest

end

end Free

/-- The parts of a plain query. -/
structure Query.PlainParts (dialect : Dialect) (words : Vocabulary) (query : Query) : Prop where
  columns : ∀ column ∈ query.columns, column.Shown dialect
  table : ∀ name ∈ query.table, name.IsNamed
  joins : ∀ join ∈ query.joins, join.IsPlain ∧ join.IsKnown dialect.vendor
  wheres : Clause.Plain dialect words query.wheres
  groups : ∀ column ∈ query.groups, column.IsNamed
  havings : Clause.Plain dialect words query.havings
  window : query.window.IsPlain
  unions : Branch.Plain dialect words query.unions
  unionWindow : query.unionWindow.IsPlain
  lock : ∀ kind ∈ query.lock, Lock.IsPlain kind
  aggregate : query.aggregate = none

section Parts

variable {dialect : Dialect} {words : Vocabulary}

theorem Query.plain_iff {query : Query} :
    query.Plain dialect words ↔ query.PlainParts dialect words := by
  obtain ⟨_, _, _, _, _, _, _, _, _, _, _, _⟩ := query
  exact ⟨fun ⟨⟨columns, table, joins⟩, wheres, groups, havings, window, unions, unionWindow, lock,
      aggregate⟩ => ⟨columns, table, joins, wheres, groups, havings, window, unions, unionWindow,
      lock, aggregate⟩,
    fun plain => ⟨⟨plain.columns, plain.table, plain.joins⟩, plain.wheres, plain.groups,
      plain.havings, plain.window, plain.unions, plain.unionWindow, plain.lock, plain.aggregate⟩⟩

theorem Clause.plain_append {left right : List Clause} :
    Clause.Plain dialect words (left ++ right) ↔
      Clause.Plain dialect words left ∧ Clause.Plain dialect words right := by
  induction left with
  | nil => exact ⟨fun plain => ⟨trivial, plain⟩, And.right⟩
  | cons clause left ih =>
      obtain ⟨connective, predicate⟩ := clause
      rw [List.cons_append, Clause.Plain, Clause.Plain, ih, and_assoc]

theorem Branch.plain_append {left right : List Branch} :
    Branch.Plain dialect words (left ++ right) ↔
      Branch.Plain dialect words left ∧ Branch.Plain dialect words right := by
  induction left with
  | nil => exact ⟨fun plain => ⟨trivial, plain⟩, And.right⟩
  | cons branch left ih =>
      obtain ⟨query, keepsDuplicates⟩ := branch
      rw [List.cons_append, Branch.Plain, Branch.Plain, ih, and_assoc]

theorem Query.PlainParts.empty {table : Option Identifier}
    (named : ∀ name ∈ table, name.IsNamed) : Query.PlainParts dialect words { table } where
  columns := nofun
  table := named
  joins := nofun
  wheres := trivial
  groups := nofun
  havings := trivial
  window := nofun
  unions := trivial
  unionWindow := nofun
  lock := nofun
  aggregate := rfl

theorem Query.PlainParts.addWhere {query : Query} {connective : Connective} {predicate : Predicate}
    (plain : query.PlainParts dialect words) (added : predicate.Plain dialect words) :
    Query.PlainParts dialect words
      { query with wheres := query.wheres ++ [⟨connective, predicate⟩] } :=
  { plain with wheres := Clause.plain_append.mpr ⟨plain.wheres, added, trivial⟩ }

theorem Query.PlainParts.addHaving {query : Query} {connective : Connective}
    {predicate : Predicate} (plain : query.PlainParts dialect words)
    (added : predicate.Plain dialect words) :
    Query.PlainParts dialect words
      { query with havings := query.havings ++ [⟨connective, predicate⟩] } :=
  { plain with havings := Clause.plain_append.mpr ⟨plain.havings, added, trivial⟩ }

/-- A whole select in a select list, under a name. -/
theorem Dialect.reads_derived {text shown : String} {trees : List Tree}
    (reads : dialect.vendor.Reads text trees) :
    dialect.vendor.Reads ("(" ++ text ++ ") AS " ++ dialect.quoted shown)
      [.parens trees, wordTree "AS", dialect.segmentTree shown] := by
  have opens : dialect.vendor.Lexes "(" [.opening] := by
    cases dialect.vendor <;> decide
  have closes : dialect.vendor.Seam ") AS " [.closing, .atom (.word "AS".toList)] := by
    cases dialect.vendor <;> decide
  have whole := (opens.prepend (by decide) reads).join closes (@reads_quoted dialect shown)
  unfold Vendor.Reads
  simpa [flatAll, Tree.flat, wordTree] using whole

theorem Dialect.closed_derived {query : Query} (plain : query.PlainParts dialect words)
    (shown : String) :
    dialect.Closed ("(" ++ dialect.select query ++ ") AS " ++ dialect.quoted shown) := by
  refine ⟨_, reads_derived (reads_select query (Query.plain_iff.mpr plain)), ?_⟩
  simp only [Avoid, List.mem_cons, List.not_mem_nil, or_false, forall_eq_or_imp, forall_eq]
  exact ⟨fun _ _ => rfl, by decide, fun word _ => isWord_segmentTree shown word⟩

end Parts

namespace Builder

variable {dialect : Dialect} {words : Vocabulary} {builder : Builder} {connective : Connective}
  {operator : String} {column : Identifier}

/-! What is added to a builder -/

/-- What is added with an operator is added only if the vendor knows the operator. -/
theorem plain_checked {next : Builder} (speaks : builder.dialect = dialect)
    (plain : builder.query.PlainParts dialect words)
    (taken : dialect.vendor.knowsOperator operator = true → next.query.PlainParts dialect words) :
    (builder.checked operator next).query.PlainParts dialect words := by
  unfold checked
  rw [speaks]
  split
  · exact taken ‹_›
  · exact plain

theorem plain_whereCompare {operand : Operand} (speaks : builder.dialect = dialect)
    (plain : builder.query.PlainParts dialect words) (within : column.Within words)
    (allowed : words.operator operator) (bound : operand.IsBound) :
    (builder.whereCompare connective column operator operand).query.PlainParts dialect words := by
  unfold whereCompare
  split
  · split
    · exact plain.addWhere within
    · split
      · exact plain.addWhere within
      · exact plain
  · exact plain_checked speaks plain fun known => plain.addWhere ⟨within, ⟨known, allowed⟩, bound⟩

theorem plain_whereGroupOf {nested : Builder} (plain : builder.query.PlainParts dialect words)
    (inner : nested.query.PlainParts dialect words) :
    (builder.whereGroupOf connective nested).query.PlainParts dialect words := by
  unfold whereGroupOf
  dsimp only
  split
  · exact plain
  · rename_i some
    have members : nested.query.wheres ≠ [] := by simpa using some
    exact plain.addWhere ⟨members, inner.wheres⟩

/-- Conditions that are compared one after the other. -/
theorem plain_compareAll {conditions : List (Identifier × String × Operand)}
    (speaks : builder.dialect = dialect) (plain : builder.query.PlainParts dialect words)
    (free : ∀ condition ∈ conditions, condition.1.Within words ∧ words.operator condition.2.1 ∧
      condition.2.2.IsBound) :
    (conditions.foldl (fun nested (column, operator, operand) =>
      nested.whereCompare .and column operator operand) builder).query.PlainParts
        dialect words := by
  induction conditions generalizing builder with
  | nil => exact plain
  | cons first rest ih =>
      obtain ⟨within, allowed, bound⟩ := free first List.mem_cons_self
      refine ih ?_ (plain_whereCompare speaks plain within allowed bound)
        fun condition member => free condition (List.mem_cons_of_mem first member)
      exact (builder.dialect_call (.whereCompare .and _ _ _)).trans speaks

theorem plain_whereAll {conditions : List (Identifier × String × Operand)}
    (speaks : builder.dialect = dialect) (plain : builder.query.PlainParts dialect words)
    (free : ∀ condition ∈ conditions, condition.1.Within words ∧ words.operator condition.2.1 ∧
      condition.2.2.IsBound) :
    (builder.whereAll conditions).query.PlainParts dialect words :=
  plain_whereGroupOf plain (plain_compareAll speaks (.empty plain.table) free)

theorem plain_whereRecord {record : Record} (speaks : builder.dialect = dialect)
    (plain : builder.query.PlainParts dialect words)
    (free : ∀ entry ∈ record.entries, words.column entry.1 ∧ entry.2.IsBound) :
    (builder.whereRecord record).query.PlainParts dialect words := by
  refine plain_whereAll speaks plain fun condition member => ?_
  obtain ⟨entry, listed, rfl⟩ := List.mem_map.mp member
  exact ⟨(free entry listed).1, words.equality, (free entry listed).2⟩

theorem plain_groupFrom {wheres : List Clause} (place : Nat)
    (plain : Clause.Plain dialect words wheres) :
    Clause.Plain dialect words (groupFrom place wheres) := by
  obtain same | ⟨front, first, rest, rfl, grouped⟩ := groupFrom_cases place wheres
  · rwa [same]
  · obtain ⟨before, members⟩ := Clause.plain_append.mp plain
    rw [grouped]
    exact Clause.plain_append.mpr ⟨before, ⟨by simp, members⟩, trivial⟩

theorem plain_applyScope {scope : Builder → Builder}
    (plain : (scope builder).query.PlainParts dialect words) :
    (builder.applyScope scope).query.PlainParts dialect words := by
  unfold applyScope
  dsimp only
  split
  · exact plain
  · exact { plain with wheres := plain_groupFrom _ plain.wheres }

/-- A join that is not refused has none but known operators. -/
theorem known_of_joinFault {join : Join} (sound : joinFault dialect.vendor join = none) :
    join.IsKnown dialect.vendor := by
  intro condition member
  refine Vendor.KnowsAll.join sound _ ?_
  rw [Join.operators, List.flatMap_singleton]
  exact List.mem_map_of_mem member

theorem plain_join {join : Join} (speaks : builder.dialect = dialect)
    (plain : builder.query.PlainParts dialect words) (free : join.IsPlain) :
    (builder.join join).query.PlainParts dialect words := by
  unfold Builder.join
  rw [speaks]
  cases refused : joinFault dialect.vendor join with
  | some fault => exact plain
  | none =>
      refine { plain with joins := ?_ }
      change ∀ other ∈ builder.query.joins ++ [join], _
      simp only [List.mem_append, List.mem_singleton]
      rintro other (member | rfl)
      · exact plain.joins other member
      · exact ⟨free, known_of_joinFault refused⟩

theorem plain_changeWindow {f : Window → Window} (plain : builder.query.PlainParts dialect words)
    (keeps : ∀ window : Window, window.IsPlain → (f window).IsPlain) :
    (builder.changeWindow f).query.PlainParts dialect words := by
  unfold changeWindow change
  dsimp only
  split
  · exact { plain with window := keeps _ plain.window }
  · exact { plain with unionWindow := keeps _ plain.unionWindow }

theorem plain_orderBy {direction : Direction} (plain : builder.query.PlainParts dialect words)
    (named : column.IsNamed) :
    (builder.orderBy column direction).query.PlainParts dialect words := by
  refine plain_changeWindow plain fun window orders order member => ?_
  rcases List.mem_append.mp member with member | member
  · exact orders order member
  · rw [List.mem_singleton.mp member]
    exact named

/-! Chains -/

mutual

/-- A step without fragments keeps a query plain, whether it is refused or not. -/
theorem plain_step (dialect : Dialect) (words : Vocabulary) : ∀ step : Step, step.Free words →
    ∀ builder : Builder, builder.dialect = dialect → builder.query.PlainParts dialect words →
    (builder.step step).query.PlainParts dialect words
  | .table _, named, _, _, plain => { plain with table := by rintro _ ⟨⟩; exact named }
  | .select _, named, _, _, plain =>
      { plain with columns := fun column member => Dialect.Shown.of_isNamed (named column member) }
  | .addSelect _, named, _, _, plain =>
      { plain with columns := List.forall_mem_append.mpr ⟨plain.columns,
          fun column member => Dialect.Shown.of_isNamed (named column member)⟩ }
  | .selectQuery steps shown, free, builder, speaks, plain => by
      have inner := plain_run dialect words steps free builder.fresh speaks (.empty nofun)
      refine { plain with columns := List.forall_mem_append.mpr ⟨plain.columns, ?_⟩ }
      simp only [List.mem_singleton, forall_eq]
      change dialect.Closed _
      rw [speaks]
      exact Dialect.closed_derived inner shown
  | .distinct, _, _, _, plain | .mergeBindings _, _, _, _, plain => { plain with }
  | .join _, free, _, speaks, plain => plain_join speaks plain free
  | .whereCompare _ _ _ _, ⟨within, allowed, bound⟩, _, speaks, plain =>
      plain_whereCompare speaks plain within allowed bound
  | .whereAll _, free, _, speaks, plain => plain_whereAll speaks plain free
  | .whereRecord _, free, _, speaks, plain => plain_whereRecord speaks plain free
  | .whereGroup _ steps, free, builder, speaks, plain =>
      plain_whereGroupOf plain (plain_run dialect words steps free _ speaks (.empty plain.table))
  | .whereGroupOf _ steps, free, builder, speaks, plain =>
      plain_whereGroupOf plain
        (plain_run dialect words steps free builder.fresh speaks (.empty nofun))
  | .whereQuery _ _ _ steps, ⟨within, allowed, free⟩, builder, speaks, plain => by
      have inner := plain_run dialect words steps free builder.fresh speaks (.empty nofun)
      exact plain_checked speaks plain fun known =>
        plain.addWhere ⟨within, ⟨known, allowed⟩, Query.plain_iff.mpr inner⟩
  | .whereColumns _ _ _ _, ⟨within, allowed, other⟩, _, speaks, plain =>
      plain_checked speaks plain fun known =>
        plain.addWhere ⟨within, ⟨known, allowed⟩, other⟩
  | .whereIn _ _ _ _, free, _, _, plain => plain.addWhere free
  | .whereInQuery _ _ _ steps, ⟨within, free⟩, builder, speaks, plain => by
      have inner := plain_run dialect words steps free builder.fresh speaks (.empty nofun)
      exact plain.addWhere ⟨within, Query.plain_iff.mpr inner⟩
  | .whereNull _ _ _, within, _, _, plain => plain.addWhere within
  | .whereBetween _ _ _ _ _, free, _, _, plain => plain.addWhere free
  | .whereExists _ _ steps, free, builder, speaks, plain => by
      have inner := plain_run dialect words steps free builder.fresh speaks (.empty nofun)
      exact plain.addWhere (Query.plain_iff.mpr inner)
  | .whereDate _ _ _ _ operand, ⟨within, allowed, bound⟩, _, speaks, plain => by
      refine plain_checked speaks plain fun known => plain.addWhere ⟨within, ⟨known, allowed⟩, ?_⟩
      cases operand with
      | bound value => trivial
      | verbatim sql => exact bound.elim
  | .applyScope steps, free, builder, speaks, plain =>
      plain_applyScope (plain_run dialect words steps free builder speaks plain)
  | .groupBy _, named, _, _, plain =>
      { plain with groups := List.forall_mem_append.mpr ⟨plain.groups, named⟩ }
  | .having _ _ _ _, ⟨within, allowed, bound⟩, _, speaks, plain =>
      plain_checked speaks plain fun known => plain.addHaving ⟨within, ⟨known, allowed⟩, bound⟩
  | .orderBy _ _, named, _, _, plain => plain_orderBy plain named
  | .limit count, _, builder, _, plain => by
      change (builder.limit count).query.PlainParts dialect words
      unfold limit
      split
      · exact plain
      · exact plain_changeWindow plain fun _ keeps => keeps
  | .offset _, _, _, _, plain | .forPage _ _, _, _, _, plain =>
      plain_changeWindow plain fun _ keeps => keeps
  | .union _ steps, free, builder, speaks, plain => by
      have inner := plain_run dialect words steps free builder.fresh speaks (.empty nofun)
      exact { plain with
        unions := Branch.plain_append.mpr ⟨plain.unions, Query.plain_iff.mpr inner, trivial⟩ }
  | .lock _, free, _, _, plain => { plain with lock := by rintro _ ⟨⟩; exact free }
  | .mergeWheres steps _, free, builder, speaks, plain =>
      { plain with
        wheres := Clause.plain_append.mpr ⟨plain.wheres,
          (plain_run dialect words steps free builder.fresh speaks (.empty nofun)).wheres⟩ }
  | .setBindings values bucket, _, builder, _, plain => by
      change (builder.setBindings values bucket).query.PlainParts dialect words
      unfold setBindings
      split <;> exact plain
  | .addBinding value bucket, _, builder, _, plain => by
      change (builder.addBinding value bucket).query.PlainParts dialect words
      unfold addBinding
      split <;> exact plain

theorem plain_run (dialect : Dialect) (words : Vocabulary) : ∀ steps : List Step,
    FreeSteps words steps → ∀ builder : Builder, builder.dialect = dialect →
    builder.query.PlainParts dialect words → (builder.run steps).query.PlainParts dialect words
  | [], _, _, _, plain => plain
  | first :: rest, ⟨free, others⟩, builder, speaks, plain => by
      refine plain_run dialect words rest others (builder.step first) ?_
        (plain_step dialect words first free builder speaks plain)
      rw [step_eq_call, dialect_call, speaks]

end

end Builder

/-- The query of a chain without fragments is plain. -/
theorem plain_of_free (dialect : Dialect) {words : Vocabulary} {steps : List Step}
    (free : FreeSteps words steps) :
    (({ dialect } : Builder).run steps).query.PlainParts dialect words :=
  Builder.plain_run dialect words steps free _ rfl (.empty nofun)

end SqlToolkit
