import SqlToolkit.Proofs.Draft.Simulation
import SqlToolkit.Proofs.Numbering.Rolls
/-!
A builder beside its roll. Each clause of the query has the entries of its part of the roll, and
each bucket holds a value for each place and the spare ones; every call keeps the two together.
-/

namespace SqlToolkit

/-- All columns and operators. -/
def Vocabulary.all : Vocabulary :=
  ⟨fun _ => True, fun _ => True, trivial⟩

/-- The buckets of a builder hold as many values as a roll counts. -/
structure Roll.Counts (tablePrefix : String) (roll : Roll) (bindings : Bindings) : Prop where
  projection : bindings.projection.length = Entry.places roll.columns.flatten + roll.spareColumns
  join : bindings.join.length =
    Entry.places (roll.joins.flatMap (Entry.ofConditions tablePrefix))
  filter : bindings.filter.length = Entry.places roll.wheres + roll.spareWheres
  having : bindings.having.length = Entry.places roll.havings
  order : bindings.order.length = Entry.places roll.orders
  union : bindings.union.length =
    Entry.places roll.branches.flatten + Entry.places roll.unionOrders + roll.spareBranches

/-- The query of a builder has the entries of a roll, and its buckets hold the values if `exact`
holds. -/
structure Enrolled (tablePrefix : String) (exact : Prop) (builder : Builder) (roll : Roll) :
    Prop where
  speaks : builder.dialect = counted tablePrefix
  columns : (builder.query.columns.map fun column =>
    entriesOf ((counted tablePrefix).columnRefTrees column)) = roll.columns
  table : builder.query.table = roll.table
  joins : builder.query.joins = roll.joins
  wheres : Entry.ofClauses tablePrefix builder.query.wheres = roll.wheres
  groups : builder.query.groups = roll.groups
  havings : Entry.ofClauses tablePrefix builder.query.havings = roll.havings
  orders : Entry.ofOrders tablePrefix builder.query.window.orders = roll.orders
  branches : ((counted tablePrefix).branchTrees builder.query.unions).map entriesOf = roll.branches
  unionOrders : Entry.ofOrders tablePrefix builder.query.unionWindow.orders = roll.unionOrders
  placed : roll.branches = [] → roll.unionOrders = []
  bare : builder.query.wheres = [] → roll.spareWheres = 0
  counts : exact → roll.Counts tablePrefix builder.bindings

/-! The places of single parts -/

namespace Entry

variable {tablePrefix : String}

@[simp] theorem places_ofColumn (column : Identifier) :
    places (ofColumn tablePrefix column) = 0 := by
  cases column with
  | named name => exact places_names _
  | verbatim sql => rfl

@[simp] theorem places_ofTable (table : Identifier) : places (ofTable tablePrefix table) = 0 := by
  cases table with
  | named name => exact places_names _
  | verbatim sql => rfl

@[simp] theorem places_ofOperand (operand : Operand) :
    places (ofOperand operand) = operand.bindings.length := by
  cases operand <;> rfl

theorem places_flatMap {α : Type} (list : List α) (entries : α → List (Entry Unit)) :
    places (list.flatMap entries) = (list.map fun x => places (entries x)).sum :=
  List.countP_flatMap

@[simp] theorem places_ofTarget (target : JoinTarget) :
    places (ofTarget tablePrefix target) = target.bindings.length := by
  cases target with
  | column column => exact places_ofColumn column
  | value operand => exact places_ofOperand operand

@[simp] theorem places_ofConditions (join : Join) :
    places (ofConditions tablePrefix join) = join.bindings.length := by
  simp [ofConditions, places_flatMap, Join.bindings, List.length_flatMap]

@[simp] theorem places_ofJoin (join : Join) :
    places (ofJoin tablePrefix join) = places (ofConditions tablePrefix join) := by
  simp [ofJoin]

theorem places_ofMembership (column : Identifier) (operands : List Operand) :
    places (ofMembership tablePrefix column operands) =
      (operands.flatMap Operand.bindings).length := by
  unfold ofMembership
  split
  · rename_i none
    rw [none]
    rfl
  · simp [places_flatMap, List.length_flatMap]

/-! The entries of predicates -/

theorem ofClauses_append (left right : List Clause) :
    ofClauses tablePrefix (left ++ right) =
      ofClauses tablePrefix left ++ ofClauses tablePrefix right := by
  induction left with
  | nil => rfl
  | cons clause left ih =>
      obtain ⟨connective, predicate⟩ := clause
      simp only [ofClauses, List.cons_append, Dialect.clauseTrees, List.flatMap_cons,
        List.append_assoc] at ih ⊢
      rw [ih]

theorem ofClauses_single (connective : Connective) (predicate : Predicate) :
    ofClauses tablePrefix [⟨connective, predicate⟩] =
      entriesOf ((counted tablePrefix).predicateTrees predicate) := by
  simp [ofClauses, Dialect.clauseTrees]

theorem ofClauses_group (connective : Connective) (members : List Clause) :
    ofClauses tablePrefix [⟨connective, .group members⟩] = ofClauses tablePrefix members := by
  rw [ofClauses_single, Dialect.predicateTrees, entriesOf_parens, Dialect.entriesOf_chain]
  rfl

theorem ofClauses_groupFrom (place : Nat) (wheres : List Clause) :
    ofClauses tablePrefix (Builder.groupFrom place wheres) = ofClauses tablePrefix wheres := by
  obtain same | ⟨front, first, rest, parts, grouped⟩ := Builder.groupFrom_cases place wheres
  · rw [same]
  · rw [grouped, parts, ofClauses_append, ofClauses_append, ofClauses_group]

end Entry

theorem Builder.of_groupFrom_eq_nil {place : Nat} {wheres : List Clause}
    (none : Builder.groupFrom place wheres = []) : wheres = [] := by
  obtain same | ⟨front, first, rest, -, grouped⟩ := Builder.groupFrom_cases place wheres
  · rwa [same] at none
  · simp [grouped] at none

/-! Single calls -/

namespace Enrolled

variable {tablePrefix : String} {exact : Prop} {builder other : Builder} {roll inner : Roll}
  {connective : Connective}

theorem empty (table : Option Identifier) :
    Enrolled tablePrefix exact { dialect := counted tablePrefix, query := { table } }
      { table } where
  speaks := rfl
  columns := rfl
  table := rfl
  joins := rfl
  wheres := rfl
  groups := rfl
  havings := rfl
  orders := rfl
  branches := rfl
  unionOrders := rfl
  placed := fun _ => rfl
  bare := fun _ => rfl
  counts := fun _ => ⟨rfl, rfl, rfl, rfl, rfl, rfl⟩

theorem fresh (enrolled : Enrolled tablePrefix exact builder roll) :
    Enrolled tablePrefix exact builder.fresh {} := by
  rw [Builder.fresh, enrolled.speaks]
  exact empty none

theorem nested (enrolled : Enrolled tablePrefix exact builder roll) :
    Enrolled tablePrefix exact
      (builder.fresh.change fun query => { query with table := builder.query.table })
      { table := roll.table } := by
  rw [← enrolled.table, Builder.fresh, enrolled.speaks]
  exact empty builder.query.table

theorem absorb (enrolled : Enrolled tablePrefix exact builder roll) (other : Builder) :
    Enrolled tablePrefix exact (builder.absorb other) roll :=
  { enrolled with }

/-- The whole statement has the entries of the roll, and a value for each place and the spare
ones. -/
theorem select {words : Vocabulary} (enrolled : Enrolled tablePrefix exact builder roll)
    (plain : builder.query.PlainParts (counted tablePrefix) words) :
    entriesOf ((counted tablePrefix).selectTrees builder.query) = roll.select tablePrefix ∧
      (exact → builder.bindings.flatten.length =
        Entry.places (roll.select tablePrefix) + roll.spare) := by
  have columns : (if builder.query.columns = [] then [.name "*"]
      else builder.query.columns.flatMap fun column =>
        entriesOf ((counted tablePrefix).columnRefTrees column)) = roll.selected := by
    rw [Roll.selected, ← enrolled.columns, ← List.flatMap_def]
    simp only [List.map_eq_nil_iff]
  have united : (if builder.query.unions = [] then []
      else Entry.ofBranches tablePrefix builder.query.unions ++
        Entry.ofOrders tablePrefix builder.query.unionWindow.orders) =
      roll.branches.flatten ++ roll.unionOrders := by
    have branches := enrolled.branches
    split
    · rename_i none
      rw [none, Dialect.branchTrees] at branches
      rw [enrolled.placed branches.symm, ← branches]
      rfl
    · rw [← branches, Entry.ofBranches, List.flatMap_def, enrolled.unionOrders]
  constructor
  · rw [Dialect.entriesOf_select plain, columns, united, enrolled.table, enrolled.joins,
      enrolled.wheres, enrolled.groups, enrolled.havings, enrolled.orders, Roll.select,
      List.append_assoc _ roll.branches.flatten]
  · intro holds
    have counts := enrolled.counts holds
    have selected : Entry.places roll.selected = Entry.places roll.columns.flatten := by
      unfold Roll.selected
      split
      · rename_i none
        rw [none]
        rfl
      · rfl
    have table : Entry.places (roll.table.toList.flatMap (Entry.ofTable tablePrefix)) = 0 := by
      cases roll.table with
      | none => rfl
      | some table => simp
    have groups : Entry.places (roll.groups.flatMap (Entry.ofColumn tablePrefix)) = 0 := by
      simp [Entry.places_flatMap]
    have joins : Entry.places (roll.joins.flatMap (Entry.ofJoin tablePrefix)) =
        Entry.places (roll.joins.flatMap (Entry.ofConditions tablePrefix)) := by
      simp [Entry.places_flatMap]
    simp only [Bindings.flatten_eq, List.length_append, Roll.select, Entry.places_append, selected,
      table, groups, joins, counts.projection, counts.join, counts.filter, counts.having,
      counts.order, counts.union, Roll.spare]
    omega

/-! The select list and the table -/

theorem setTable (enrolled : Enrolled tablePrefix exact builder roll) (table : Identifier) :
    Enrolled tablePrefix exact (builder.table table) { roll with table := some table } :=
  { enrolled with
    table := rfl
    counts := fun holds => { enrolled.counts holds with } }

theorem entriesOf_named {columns : List Identifier} (named : ∀ column ∈ columns, column.IsNamed) :
    (columns.map fun column => entriesOf ((counted tablePrefix).columnRefTrees column)) =
      columns.map (Entry.ofColumn tablePrefix) :=
  List.map_congr_left fun column member => Dialect.entriesOf_columnRef (named column member)

theorem places_named (columns : List Identifier) :
    Entry.places (columns.map (Entry.ofColumn tablePrefix)).flatten = 0 := by
  rw [← List.flatMap_def, Entry.places_flatMap]
  simp

/-- The places of the columns that are replaced go, and the values stay. -/
theorem setColumns (enrolled : Enrolled tablePrefix exact builder roll) {columns : List Identifier}
    (named : ∀ column ∈ columns, column.IsNamed) :
    Enrolled tablePrefix exact (builder.select columns)
      { roll with
        columns := columns.map (Entry.ofColumn tablePrefix)
        spareColumns := roll.spareColumns + Entry.places roll.columns.flatten } :=
  { enrolled with
    columns := entriesOf_named named
    counts := fun holds =>
      { enrolled.counts holds with
        projection := by
          rw [places_named, Nat.zero_add, Nat.add_comm]
          exact (enrolled.counts holds).projection } }

theorem addSelect (enrolled : Enrolled tablePrefix exact builder roll) {columns : List Identifier}
    (named : ∀ column ∈ columns, column.IsNamed) :
    Enrolled tablePrefix exact (builder.addSelect columns)
      { roll with columns := roll.columns ++ columns.map (Entry.ofColumn tablePrefix) } :=
  { enrolled with
    columns := by
      rw [← enrolled.columns, ← entriesOf_named named, ← List.map_append]
      rfl
    counts := fun holds =>
      { enrolled.counts holds with
        projection := by
          rw [List.flatten_append, Entry.places_append, places_named, Nat.add_zero]
          exact (enrolled.counts holds).projection } }

/-- What a query is given as a column has the entries of the query and its name. -/
theorem entriesOf_derived {words : Vocabulary} {query : Query}
    (plain : query.PlainParts (counted tablePrefix) words) (shown : String) :
    entriesOf ((counted tablePrefix).fragmentTrees ("(" ++ (counted tablePrefix).select query ++
        ") AS " ++ (counted tablePrefix).quoted shown)) =
      entriesOf ((counted tablePrefix).selectTrees query) ++ [.name shown] := by
  have reads := @Dialect.reads_derived (counted tablePrefix) _ shown _
    (Dialect.reads_select query (Query.plain_iff.mpr plain))
  rw [Dialect.fragmentTrees, reads.parse, Option.getD_some, entriesOf_cons,
    entriesOf_parens, entriesOf_word (by decide), Dialect.entriesOf_segment]

theorem addQuery {words : Vocabulary} (enrolled : Enrolled tablePrefix exact builder roll)
    (within : Enrolled tablePrefix exact other inner)
    (plain : other.query.PlainParts (counted tablePrefix) words) (shown : String) :
    Enrolled tablePrefix exact (builder.selectQuery other shown)
      (roll.addColumn (inner.select tablePrefix ++ [.name shown]) inner.spare) := by
  obtain ⟨whole, values⟩ := within.select plain
  exact { enrolled with
    columns := by
      change List.map _ (builder.query.columns ++ [Identifier.verbatim _]) = _
      rw [List.map_append, enrolled.columns, enrolled.speaks]
      have entries := entriesOf_derived plain shown
      rw [whole] at entries
      exact congrArg (fun column => roll.columns ++ [column]) entries
    counts := fun holds =>
      { enrolled.counts holds with
        projection := by
          change (builder.bindings.projection ++ other.bindings.flatten).length =
            Entry.places (roll.columns ++ [_]).flatten + (roll.spareColumns + inner.spare)
          have before := (enrolled.counts holds).projection
          have added := values holds
          have name : Entry.places ([.name shown] : List (Entry Unit)) = 0 := rfl
          simp only [List.length_append, List.flatten_append, List.flatten_singleton,
            Entry.places_append, name]
          omega } }

/-! Joins -/

theorem addJoin (enrolled : Enrolled tablePrefix exact builder roll) {join : Join}
    (accepted : (builder.join join).fault = none) :
    Enrolled tablePrefix exact (builder.join join) { roll with joins := roll.joins ++ [join] } := by
  unfold Builder.join at accepted ⊢
  split at accepted
  · simp [Builder.fail] at accepted
  · exact { enrolled with
      joins := congrArg (· ++ [join]) enrolled.joins
      counts := fun holds =>
        { enrolled.counts holds with
          join := by
            change (builder.bindings.join ++ join.bindings).length = _
            have before := (enrolled.counts holds).join
            simp only [List.length_append, List.flatMap_append, List.flatMap_singleton,
              Entry.places_append, Entry.places_ofConditions]
            omega } }

/-! Predicates -/

theorem addWhere (enrolled : Enrolled tablePrefix exact builder roll) {predicate : Predicate}
    {entries : List (Entry Unit)} {values : List Value} {spare : Nat}
    (same : entriesOf ((counted tablePrefix).predicateTrees predicate) = entries)
    (count : exact → values.length = Entry.places entries + spare) :
    Enrolled tablePrefix exact ((builder.bind .filter values).addWhere connective predicate)
      (roll.addWhere entries spare) :=
  { enrolled with
    wheres := by
      change Entry.ofClauses tablePrefix (builder.query.wheres ++ [⟨connective, predicate⟩]) =
        roll.wheres ++ entries
      rw [Entry.ofClauses_append, Entry.ofClauses_single, enrolled.wheres, same]
    bare := by
      change builder.query.wheres ++ [_] = [] → _
      simp
    counts := fun holds =>
      { enrolled.counts holds with
        filter := by
          change (builder.bindings.filter ++ values).length =
            Entry.places (roll.wheres ++ entries) + (roll.spareWheres + spare)
          have before := (enrolled.counts holds).filter
          have added := count holds
          simp only [List.length_append, Entry.places_append]
          omega } }

theorem addSilent (enrolled : Enrolled tablePrefix exact builder roll) {predicate : Predicate}
    {entries : List (Entry Unit)}
    (same : entriesOf ((counted tablePrefix).predicateTrees predicate) = entries)
    (none : Entry.places entries = 0) :
    Enrolled tablePrefix exact (builder.addWhere connective predicate)
      (roll.addWhere entries 0) := by
  have added : Enrolled tablePrefix exact
      ((builder.bind .filter []).addWhere connective predicate) (roll.addWhere entries 0) :=
    enrolled.addWhere same fun _ => by rw [none]; rfl
  rwa [Builder.bind_nil] at added

theorem addGroup (enrolled : Enrolled tablePrefix exact builder roll)
    (within : Enrolled tablePrefix exact other inner) :
    Enrolled tablePrefix exact (builder.whereGroupOf connective other)
      (roll.addWhere inner.wheres inner.spareWheres) := by
  have outer := enrolled.absorb other
  unfold Builder.whereGroupOf
  dsimp only
  split
  · rename_i none
    have empty := List.isEmpty_iff.mp none
    have wheres : inner.wheres = [] := by
      rw [← within.wheres, empty]
      rfl
    rw [wheres, within.bare empty]
    exact { outer with
      wheres := by
        rw [Roll.addWhere, List.append_nil]
        exact outer.wheres
      counts := fun holds =>
        { outer.counts holds with
          filter := by
            change _ = Entry.places (roll.wheres ++ []) + (roll.spareWheres + 0)
            rw [List.append_nil]
            exact (outer.counts holds).filter } }
  · refine outer.addWhere ?_ fun holds => (within.counts holds).filter
    rw [← Entry.ofClauses_single connective, Entry.ofClauses_group, within.wheres]

/-- What a scope adds becomes a group, which has the entries of its members. -/
theorem afterScope (scope : Builder → Builder)
    (within : Enrolled tablePrefix exact (scope builder) inner) :
    Enrolled tablePrefix exact (builder.applyScope scope) inner := by
  unfold Builder.applyScope
  dsimp only
  split
  · exact within
  · exact { within with
      wheres := (Entry.ofClauses_groupFrom _ _).trans within.wheres
      bare := fun none => within.bare (Builder.of_groupFrom_eq_nil none) }

theorem whereCompare (enrolled : Enrolled tablePrefix exact builder roll) {column : Identifier}
    {operator : String} {operand : Operand} (named : column.IsNamed) (bound : operand.IsBound)
    (accepted : (builder.whereCompare connective column operator operand).fault = none) :
    Enrolled tablePrefix exact (builder.whereCompare connective column operator operand)
      (roll.addWhere (Entry.ofComparison tablePrefix column operand) 0) := by
  have test : ∀ negated, Enrolled tablePrefix exact
      (builder.addWhere connective (.isNull negated column))
      (roll.addWhere (Entry.ofColumn tablePrefix column) 0) := fun negated =>
    enrolled.addSilent (Dialect.entriesOf_isNull named negated) (Entry.places_ofColumn column)
  unfold Builder.whereCompare at accepted ⊢
  unfold Entry.ofComparison
  by_cases null : operand.isNull = true
  · rw [if_pos null] at accepted ⊢
    rw [if_pos null]
    split
    · exact test false
    · rename_i unequal
      rw [if_neg unequal] at accepted
      split
      · exact test true
      · rename_i other
        simp [if_neg other, Builder.fail] at accepted
  · rw [if_neg null] at accepted ⊢
    rw [if_neg null]
    obtain ⟨known, taken⟩ := Builder.fault_checked accepted
    rw [taken]
    rw [enrolled.speaks] at known
    exact enrolled.addWhere (Dialect.entriesOf_comparison named known bound) fun _ => by simp

theorem compareAll {conditions : List (Identifier × String × Operand)}
    (enrolled : Enrolled tablePrefix exact builder roll)
    (free : ∀ condition ∈ conditions, condition.1.IsNamed ∧ condition.2.2.IsBound)
    (accepted : (conditions.foldl (fun nested (column, operator, operand) =>
      nested.whereCompare .and column operator operand) builder).fault = none) :
    Enrolled tablePrefix exact
      (conditions.foldl (fun nested (column, operator, operand) =>
        nested.whereCompare .and column operator operand) builder)
      (roll.addWhere (conditions.flatMap fun (column, _, operand) =>
        Entry.ofComparison tablePrefix column operand) 0) := by
  induction conditions generalizing builder roll with
  | nil => simpa [Roll.addWhere] using enrolled
  | cons first rest ih =>
      obtain ⟨column, operator, operand⟩ := first
      obtain ⟨head, tail⟩ := List.forall_mem_cons.mp free
      have single := enrolled.whereCompare head.1 head.2 (Builder.fault_whereAll rest accepted)
      have all := ih single tail accepted
      simpa [Roll.addWhere] using all

theorem whereAll {conditions : List (Identifier × String × Operand)}
    (enrolled : Enrolled tablePrefix exact builder roll)
    (free : ∀ condition ∈ conditions, condition.1.IsNamed ∧ condition.2.2.IsBound)
    (accepted : (builder.whereAll conditions).fault = none) :
    Enrolled tablePrefix exact (builder.whereAll conditions)
      (roll.addWhere (conditions.flatMap fun (column, _, operand) =>
        Entry.ofComparison tablePrefix column operand) 0) :=
  enrolled.addGroup (enrolled.nested.compareAll free (Builder.fault_whereGroupOf accepted).2)

theorem whereRecord {record : Record} (enrolled : Enrolled tablePrefix exact builder roll)
    (bound : ∀ entry ∈ record.entries, entry.2.IsBound)
    (accepted : (builder.whereRecord record).fault = none) :
    Enrolled tablePrefix exact (builder.whereRecord record)
      (roll.addWhere (record.entries.flatMap fun (column, operand) =>
        Entry.ofComparison tablePrefix (.named column) operand) 0) := by
  have free : ∀ condition ∈ record.entries.map fun (column, operand) =>
      (Identifier.named column, "=", operand),
      condition.1.IsNamed ∧ condition.2.2.IsBound := by
    intro condition member
    obtain ⟨entry, listed, rfl⟩ := List.mem_map.mp member
    exact ⟨trivial, bound entry listed⟩
  have all := enrolled.whereAll free accepted
  rwa [List.flatMap_map] at all

theorem whereQuery {words : Vocabulary} (enrolled : Enrolled tablePrefix exact builder roll)
    (within : Enrolled tablePrefix exact other inner)
    (plain : other.query.PlainParts (counted tablePrefix) words) {column : Identifier}
    {operator : String} (named : column.IsNamed)
    (accepted : (builder.whereQuery connective column operator other).fault = none) :
    Enrolled tablePrefix exact (builder.whereQuery connective column operator other)
      (roll.addWhere (Entry.ofColumn tablePrefix column ++ inner.select tablePrefix)
        inner.spare) := by
  unfold Builder.whereQuery at accepted ⊢
  obtain ⟨known, taken⟩ := Builder.fault_checked accepted
  rw [taken]
  rw [enrolled.speaks] at known
  obtain ⟨whole, values⟩ := within.select plain
  refine (enrolled.absorb other).addWhere ?_ fun holds => ?_
  · rw [Dialect.entriesOf_compareQuery named known, whole]
  · rw [values holds]
    simp

theorem whereInQuery {words : Vocabulary} (enrolled : Enrolled tablePrefix exact builder roll)
    (within : Enrolled tablePrefix exact other inner)
    (plain : other.query.PlainParts (counted tablePrefix) words) {column : Identifier}
    (named : column.IsNamed) (negated : Bool) :
    Enrolled tablePrefix exact (builder.whereInQuery connective negated column other)
      (roll.addWhere (Entry.ofColumn tablePrefix column ++ inner.select tablePrefix)
        inner.spare) := by
  obtain ⟨whole, values⟩ := within.select plain
  refine (enrolled.absorb other).addWhere ?_ fun holds => ?_
  · rw [Dialect.entriesOf_inQuery named, whole]
  · rw [values holds]
    simp

theorem whereExists {words : Vocabulary} (enrolled : Enrolled tablePrefix exact builder roll)
    (within : Enrolled tablePrefix exact other inner)
    (plain : other.query.PlainParts (counted tablePrefix) words) (negated : Bool) :
    Enrolled tablePrefix exact (builder.whereExists connective negated other)
      (roll.addWhere (inner.select tablePrefix) inner.spare) := by
  obtain ⟨whole, values⟩ := within.select plain
  refine (enrolled.absorb other).addWhere ?_ values
  rw [Dialect.entriesOf_exists, whole]

theorem whereColumns (enrolled : Enrolled tablePrefix exact builder roll)
    {first second : Identifier} {operator : String} (named : first.IsNamed)
    (otherNamed : second.IsNamed)
    (accepted : (builder.whereColumns connective first operator second).fault = none) :
    Enrolled tablePrefix exact (builder.whereColumns connective first operator second)
      (roll.addWhere (Entry.ofColumn tablePrefix first ++ Entry.ofColumn tablePrefix second)
        0) := by
  unfold Builder.whereColumns at accepted ⊢
  obtain ⟨known, taken⟩ := Builder.fault_checked accepted
  rw [taken]
  rw [enrolled.speaks] at known
  exact enrolled.addSilent (Dialect.entriesOf_compareColumns named known otherNamed) (by simp)

theorem whereDate (enrolled : Enrolled tablePrefix exact builder roll) {part : DatePart}
    {column : Identifier} {operator : String} {operand : Operand} (named : column.IsNamed)
    (bound : operand.IsBound)
    (accepted : (builder.whereDate connective part column operator operand).fault = none) :
    Enrolled tablePrefix exact (builder.whereDate connective part column operator operand)
      (roll.addWhere (Entry.ofColumn tablePrefix column ++ Entry.ofOperand operand) 0) := by
  unfold Builder.whereDate at accepted ⊢
  dsimp only at accepted ⊢
  obtain ⟨known, taken⟩ := Builder.fault_checked accepted
  rw [taken]
  rw [enrolled.speaks] at known
  cases operand with
  | bound value =>
      exact enrolled.addWhere (Dialect.entriesOf_compareDate part named known trivial) fun _ => by
        rw [Entry.places_append, Entry.places_ofColumn, Entry.places_ofOperand]
        rfl
  | verbatim sql => exact bound.elim

/-! Groups, order and unions -/

theorem addGroups (enrolled : Enrolled tablePrefix exact builder roll) (columns : List Identifier) :
    Enrolled tablePrefix exact (builder.groupBy columns)
      { roll with groups := roll.groups ++ columns } :=
  { enrolled with
    groups := congrArg (· ++ columns) enrolled.groups
    counts := fun holds => { enrolled.counts holds with } }

theorem havingCompare (enrolled : Enrolled tablePrefix exact builder roll) {column : Identifier}
    {operator : String} {operand : Operand} (named : column.IsNamed) (bound : operand.IsBound)
    (accepted : (builder.having connective column operator operand).fault = none) :
    Enrolled tablePrefix exact (builder.having connective column operator operand)
      (roll.addHaving (Entry.ofColumn tablePrefix column ++ Entry.ofOperand operand)) := by
  unfold Builder.having at accepted ⊢
  obtain ⟨known, taken⟩ := Builder.fault_checked accepted
  rw [taken]
  rw [enrolled.speaks] at known
  exact { enrolled with
    havings := by
      change Entry.ofClauses tablePrefix (builder.query.havings ++ [⟨connective, _⟩]) =
        roll.havings ++ _
      rw [Entry.ofClauses_append, Entry.ofClauses_single, enrolled.havings,
        Dialect.entriesOf_comparison named known bound]
    counts := fun holds =>
      { enrolled.counts holds with
        having := by
          change (builder.bindings.having ++ operand.bindings).length =
            Entry.places (roll.havings ++ _)
          have before := (enrolled.counts holds).having
          simp only [List.length_append, Entry.places_append, Entry.places_ofColumn,
            Entry.places_ofOperand]
          omega } }

theorem single_iff (enrolled : Enrolled tablePrefix exact builder roll) :
    builder.query.unions.isEmpty = true ↔ roll.branches = [] := by
  rw [← enrolled.branches, List.map_eq_nil_iff]
  cases builder.query.unions with
  | nil => simp [Dialect.branchTrees]
  | cons branch rest =>
      obtain ⟨query, keepsDuplicates⟩ := branch
      simp [Dialect.branchTrees]

/-- Limits and offsets have no entries. -/
theorem changeWindow (enrolled : Enrolled tablePrefix exact builder roll) {f : Window → Window}
    (keeps : ∀ window, (f window).orders = window.orders) :
    Enrolled tablePrefix exact (builder.changeWindow f) roll := by
  unfold Builder.changeWindow Builder.change
  dsimp only
  split
  · exact { enrolled with orders := by rw [keeps, enrolled.orders] }
  · exact { enrolled with unionOrders := by rw [keeps, enrolled.unionOrders] }

theorem limit (enrolled : Enrolled tablePrefix exact builder roll) (count : Int) :
    Enrolled tablePrefix exact (builder.limit count) roll := by
  unfold Builder.limit
  split
  · exact { enrolled with }
  · exact enrolled.changeWindow fun _ => rfl

theorem offset (enrolled : Enrolled tablePrefix exact builder roll) (count : Int) :
    Enrolled tablePrefix exact (builder.offset count) roll := by
  unfold Builder.offset
  exact enrolled.changeWindow fun _ => rfl

theorem forPage (enrolled : Enrolled tablePrefix exact builder roll) (page perPage : Nat) :
    Enrolled tablePrefix exact (builder.forPage page perPage) roll := by
  unfold Builder.forPage
  exact enrolled.changeWindow fun _ => rfl

theorem ofOrders_append {orders : List Order} {column : Identifier} (direction : Direction)
    (named : column.IsNamed) :
    Entry.ofOrders tablePrefix (orders ++ [.column column direction]) =
      Entry.ofOrders tablePrefix orders ++ Entry.ofColumn tablePrefix column := by
  have alpha : direction.text.toList.all Char.isAlphanum = true := by
    cases direction <;> decide
  simp [Entry.ofOrders, Dialect.orderTrees, Dialect.entriesOf_columnRef named, entriesOf_word alpha]

theorem addOrder (enrolled : Enrolled tablePrefix exact builder roll) {column : Identifier}
    {direction : Direction} (named : column.IsNamed) :
    Enrolled tablePrefix exact (builder.orderBy column direction)
      (roll.addOrder (Entry.ofColumn tablePrefix column)) := by
  unfold Builder.orderBy Builder.addOrder Builder.changeWindow Builder.change Roll.addOrder
  dsimp only
  by_cases single : roll.branches = []
  · rw [if_pos single, if_pos (enrolled.single_iff.mpr single)]
    exact { enrolled with
      orders := by rw [ofOrders_append direction named, enrolled.orders]
      counts := fun holds =>
        { enrolled.counts holds with
          order := by
            rw [Entry.places_append, Entry.places_ofColumn]
            exact (enrolled.counts holds).order } }
  · rw [if_neg single, if_neg (mt enrolled.single_iff.mp single)]
    exact { enrolled with
      unionOrders := by rw [ofOrders_append direction named, enrolled.unionOrders]
      placed := fun none => absurd none single
      counts := fun holds =>
        { enrolled.counts holds with
          union := by
            rw [Entry.places_append, Entry.places_ofColumn]
            exact (enrolled.counts holds).union } }

theorem branchTrees_append (left right : List Branch) :
    (counted tablePrefix).branchTrees (left ++ right) =
      (counted tablePrefix).branchTrees left ++ (counted tablePrefix).branchTrees right := by
  induction left with
  | nil => rfl
  | cons branch left ih =>
      obtain ⟨query, keepsDuplicates⟩ := branch
      simp [Dialect.branchTrees, ih]

theorem entriesOf_branch (query : Query) (keepsDuplicates : Bool) :
    entriesOf (wordTree "UNION" :: (if keepsDuplicates then [wordTree "ALL"] else []) ++
        (counted tablePrefix).unionSideTrees ((counted tablePrefix).selectTrees query)) =
      entriesOf ((counted tablePrefix).selectTrees query) := by
  have kind : entriesOf (if keepsDuplicates then [wordTree "ALL"] else []) = [] := by
    cases keepsDuplicates <;> decide
  rw [List.cons_append, entriesOf_word (by decide), entriesOf_append, kind, List.nil_append]
  rfl

theorem addBranch {words : Vocabulary} (enrolled : Enrolled tablePrefix exact builder roll)
    (within : Enrolled tablePrefix exact other inner)
    (plain : other.query.PlainParts (counted tablePrefix) words) (keepsDuplicates : Bool) :
    Enrolled tablePrefix exact (builder.union keepsDuplicates other)
      (roll.addBranch (inner.select tablePrefix) inner.spare) := by
  obtain ⟨whole, values⟩ := within.select plain
  exact { enrolled with
    branches := by
      change List.map entriesOf ((counted tablePrefix).branchTrees
        (builder.query.unions ++ [⟨other.query, keepsDuplicates⟩])) = _
      rw [branchTrees_append, List.map_append, enrolled.branches]
      have branch := @entriesOf_branch tablePrefix other.query keepsDuplicates
      rw [whole] at branch
      exact congrArg (fun entries => roll.branches ++ [entries]) branch
    placed := by simp [Roll.addBranch]
    counts := fun holds =>
      { enrolled.counts holds with
        union := by
          change (builder.bindings.union ++ other.bindings.flatten).length =
            Entry.places (roll.branches ++ [inner.select tablePrefix]).flatten +
              Entry.places roll.unionOrders + (roll.spareBranches + inner.spare)
          have before := (enrolled.counts holds).union
          have added := values holds
          simp only [List.length_append, List.flatten_append, List.flatten_singleton,
            Entry.places_append]
          omega } }

/-! Bindings by hand -/

/-- Nothing is known of the buckets once a value is put into one by hand. -/
theorem rebind (enrolled : Enrolled tablePrefix exact builder roll) (never : exact → False)
    (bindings : Bindings) : Enrolled tablePrefix exact { builder with bindings } roll :=
  { enrolled with counts := fun holds => (never holds).elim }

theorem setBindings (enrolled : Enrolled tablePrefix exact builder roll) (never : exact → False)
    (values : List Value) (bucket : String) :
    Enrolled tablePrefix exact (builder.setBindings values bucket) roll := by
  unfold Builder.setBindings
  split
  · exact enrolled.rebind never _
  · exact { enrolled with }

theorem addBinding (enrolled : Enrolled tablePrefix exact builder roll) (never : exact → False)
    (value : Value) (bucket : String) :
    Enrolled tablePrefix exact (builder.addBinding value bucket) roll := by
  unfold Builder.addBinding
  split
  · exact enrolled.rebind never _
  · exact { enrolled with }

theorem mergeWheres (enrolled : Enrolled tablePrefix exact builder roll) {wheres : List Clause}
    {values : List Value}
    (supplied : exact → values.length = Entry.places (Entry.ofClauses tablePrefix wheres)) :
    Enrolled tablePrefix exact (builder.mergeWheres wheres values)
      (roll.addWhere (Entry.ofClauses tablePrefix wheres) 0) :=
  { enrolled with
    wheres := by
      change Entry.ofClauses tablePrefix (builder.query.wheres ++ wheres) = _
      rw [Entry.ofClauses_append, enrolled.wheres]
      rfl
    bare := fun none => enrolled.bare (List.append_eq_nil_iff.mp none).1
    counts := fun holds =>
      { enrolled.counts holds with
        filter := by
          change (builder.bindings.filter ++ values).length =
            Entry.places (roll.wheres ++ _) + (roll.spareWheres + 0)
          rw [List.length_append, Entry.places_append, (enrolled.counts holds).filter,
            supplied holds]
          omega } }

/-! Steps and runs -/

theorem plain_inner (enrolled : Enrolled tablePrefix exact builder roll) {steps : List Step}
    (free : FreeSteps .all steps) :
    (builder.fresh.run steps).query.PlainParts (counted tablePrefix) .all :=
  Builder.plain_run (counted tablePrefix) .all steps free builder.fresh enrolled.speaks
    (.empty (by rintro _ ⟨⟩))

mutual

/-- An accepted step without fragments keeps builder and roll together, and the buckets as the roll
counts them if none is edited by hand. -/
theorem step : ∀ (step : Step) {builder : Builder} {roll : Roll},
    Enrolled tablePrefix exact builder roll → step.Free .all →
    (exact → step.Untouched tablePrefix) → (builder.step step).fault = none →
    Enrolled tablePrefix exact (builder.step step) (roll.step tablePrefix step)
  | .table table, _, _, enrolled, _, _, _ => enrolled.setTable table
  | .select _, _, _, enrolled, named, _, _ => enrolled.setColumns named
  | .addSelect _, _, _, enrolled, named, _, _ => enrolled.addSelect named
  | .selectQuery steps shown, _, _, enrolled, free, untouched, accepted =>
      enrolled.addQuery (run steps enrolled.fresh free untouched (Builder.fault_absorb accepted).2)
        (enrolled.plain_inner free) shown
  | .distinct, _, _, enrolled, _, _, _ => { enrolled with }
  | .join _, _, _, enrolled, _, _, accepted => enrolled.addJoin accepted
  | .whereCompare _ _ _ _, _, _, enrolled, free, _, accepted =>
      enrolled.whereCompare free.1.isNamed free.2.2 accepted
  | .whereAll _, _, _, enrolled, free, _, accepted =>
      enrolled.whereAll (fun condition member =>
        ⟨(free condition member).1.isNamed, (free condition member).2.2⟩) accepted
  | .whereRecord _, _, _, enrolled, free, _, accepted =>
      enrolled.whereRecord (fun entry member => (free entry member).2) accepted
  | .whereGroup _ steps, _, _, enrolled, free, untouched, accepted =>
      enrolled.addGroup
        (run steps enrolled.nested free untouched (Builder.fault_whereGroupOf accepted).2)
  | .whereGroupOf _ steps, _, _, enrolled, free, untouched, accepted =>
      enrolled.addGroup
        (run steps enrolled.fresh free untouched (Builder.fault_whereGroupOf accepted).2)
  | .whereQuery _ _ _ steps, _, _, enrolled, free, untouched, accepted =>
      enrolled.whereQuery
        (run steps enrolled.fresh free.2.2 untouched (Builder.fault_whereQuery accepted).2)
        (enrolled.plain_inner free.2.2) free.1.isNamed accepted
  | .whereColumns _ _ _ _, _, _, enrolled, free, _, accepted =>
      enrolled.whereColumns free.1.isNamed free.2.2.isNamed accepted
  | .whereIn _ negated _ _, _, _, enrolled, free, _, _ =>
      enrolled.addWhere (Dialect.entriesOf_inList free.1.isNamed free.2 negated) fun _ =>
        (Entry.places_ofMembership _ _).symm
  | .whereInQuery _ negated _ steps, _, _, enrolled, free, untouched, accepted =>
      enrolled.whereInQuery
        (run steps enrolled.fresh free.2 untouched (Builder.fault_absorb accepted).2)
        (enrolled.plain_inner free.2) free.1.isNamed negated
  | .whereNull _ negated _, _, _, enrolled, free, _, _ =>
      enrolled.addSilent (Dialect.entriesOf_isNull free.isNamed negated) (Entry.places_ofColumn _)
  | .whereBetween _ negated _ _ _, _, _, enrolled, free, _, _ =>
      enrolled.addWhere
        (Dialect.entriesOf_between free.1.isNamed free.2.1 free.2.2 negated) fun _ => by simp
  | .whereExists _ negated steps, _, _, enrolled, free, untouched, accepted =>
      enrolled.whereExists
        (run steps enrolled.fresh free untouched (Builder.fault_absorb accepted).2)
        (enrolled.plain_inner free) negated
  | .whereDate _ _ _ _ _, _, _, enrolled, free, _, accepted =>
      enrolled.whereDate free.1.isNamed free.2.2 accepted
  | .applyScope steps, _, _, enrolled, free, untouched, accepted =>
      afterScope (fun inner => inner.run steps)
        (run steps enrolled free untouched (Builder.fault_applyScope accepted))
  | .groupBy columns, _, _, enrolled, _, _, _ => enrolled.addGroups columns
  | .having _ _ _ _, _, _, enrolled, free, _, accepted =>
      enrolled.havingCompare free.1.isNamed free.2.2 accepted
  | .orderBy _ _, _, _, enrolled, named, _, _ => enrolled.addOrder named
  | .limit count, _, _, enrolled, _, _, _ => enrolled.limit count
  | .offset count, _, _, enrolled, _, _, _ => enrolled.offset count
  | .forPage page perPage, _, _, enrolled, _, _, _ => enrolled.forPage page perPage
  | .union keepsDuplicates steps, _, _, enrolled, free, untouched, accepted =>
      enrolled.addBranch
        (run steps enrolled.fresh free untouched (Builder.fault_absorb accepted).2)
        (enrolled.plain_inner free) keepsDuplicates
  | .lock _, _, _, enrolled, _, _, _ => { enrolled with }
  | .setBindings values bucket, _, _, enrolled, _, untouched, _ =>
      enrolled.setBindings untouched values bucket
  | .addBinding value bucket, _, _, enrolled, _, untouched, _ =>
      enrolled.addBinding untouched value bucket
  | .mergeBindings _, _, _, enrolled, _, untouched, _ => enrolled.rebind untouched _
  | .mergeWheres steps values, builder, _, enrolled, _, untouched, _ => by
      have merged : builder.fresh.run steps =
          ({ dialect := counted tablePrefix } : Builder).run steps := by
        rw [Builder.fresh, enrolled.speaks]
      change Enrolled tablePrefix exact
        (builder.mergeWheres (builder.fresh.run steps).query.wheres values) _
      rw [merged]
      exact enrolled.mergeWheres untouched

theorem run : ∀ (steps : List Step) {builder : Builder} {roll : Roll},
    Enrolled tablePrefix exact builder roll → FreeSteps .all steps →
    (exact → UntouchedSteps tablePrefix steps) → (builder.run steps).fault = none →
    Enrolled tablePrefix exact (builder.run steps) (roll.run tablePrefix steps)
  | [], _, _, enrolled, _, _, _ => enrolled
  | first :: rest, _, _, enrolled, free, untouched, accepted =>
      run rest (step first enrolled free.1 (fun holds => (untouched holds).1)
        (Builder.fault_run rest accepted)) free.2 (fun holds => (untouched holds).2) accepted

end

end Enrolled

end SqlToolkit
