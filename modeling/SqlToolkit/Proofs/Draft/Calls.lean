import SqlToolkit.Proofs.Draft.Agreement
/-!
A builder beside a draft: the query of the builder agrees with the draft, and each bucket holds the
values of its part of the draft. Every single call keeps the two together.

Values that lie in a bucket without a place in the text come about only where calls are not orderly.
A bucket then holds more than its part of the draft, but never less.
-/

namespace SqlToolkit

/-- `bound` covers the values `placed`, and is the same list if `exact` holds. -/
structure Covers (exact : Prop) (bound placed : List Value) : Prop where
  enough : placed.length ≤ bound.length
  same : exact → bound = placed

namespace Covers

variable {exact : Prop} {bound placed more extra : List Value}

theorem refl : Covers exact bound bound :=
  ⟨Nat.le_refl _, fun _ => rfl⟩

theorem of_eq (same : bound = placed) : Covers exact bound placed :=
  same ▸ refl

theorem append (first : Covers exact bound placed) (second : Covers exact more extra) :
    Covers exact (bound ++ more) (placed ++ extra) where
  enough := by
    simp only [List.length_append]
    exact Nat.add_le_add first.enough second.enough
  same := fun holds => by rw [first.same holds, second.same holds]

/-- Values in front that cover those placed in front cannot make up for others behind. -/
theorem append_eq_iff (first : Covers exact bound placed) (second : Covers exact more extra) :
    bound ++ more = placed ++ extra ↔ bound = placed ∧ more = extra := by
  constructor
  · intro same
    have total := congrArg List.length same
    simp only [List.length_append] at total
    -- Both parts are at least as long as what is placed, so neither is longer.
    have lengths : bound.length = placed.length := by
      have := first.enough
      have := second.enough
      omega
    exact List.append_inj same lengths
  · rintro ⟨rfl, rfl⟩
    rfl

end Covers

/-- The builder has the query and the values of the draft: all values if `exact` holds, and those of
its predicates just if `kept` holds. -/
structure Follows (dialect : Dialect) (exact kept : Prop) (builder : Builder) (draft : Draft) :
    Prop where
  speaks : builder.dialect = dialect
  agrees : dialect.Agrees builder.query draft
  projection : Covers exact builder.bindings.projection draft.columnValues
  join : builder.bindings.join = draft.joinValues
  filter : Covers exact builder.bindings.filter draft.whereValues
  kept : builder.bindings.filter = draft.whereValues ↔ kept
  having : builder.bindings.having = draft.havingValues
  order : builder.bindings.order = draft.window.values
  union : Covers exact builder.bindings.union draft.unionValues
  aggregate : draft.aggregate = none
  placed : draft.branches = [] → draft.unionWindow.values = []
  bare : draft.wheres = [] → builder.bindings.filter = []
  lone : draft.branches = [] → builder.bindings.union = []

variable {dialect : Dialect} {exact kept more : Prop} {builder : Builder} {draft : Draft}

theorem Bindings.flatten_eq (bindings : Bindings) :
    bindings.flatten = bindings.projection ++ (bindings.join ++ bindings.filter ++
      bindings.having ++ bindings.order ++ bindings.union) := by
  simp [flatten, collect, Bucket.all, get]

theorem DraftWindow.values_push (window : DraftWindow) (text : Filled) :
    DraftWindow.values { window with orders := window.orders ++ [text] } =
      window.values ++ text.values := by
  simp [values]

theorem Draft.values_addBranch (draft : Draft) (keepsDuplicates : Bool) (text : Filled) :
    (draft.addBranch dialect keepsDuplicates text).branches.flatMap Filled.values =
      draft.branches.flatMap Filled.values ++ text.values := by
  simp [addBranch, values_unionSide]

namespace Builder

@[simp] theorem bind_nil (builder : Builder) (bucket : Bucket) :
    builder.bind bucket [] = builder := by
  cases bucket <;> simp [bind, Bindings.extend, Bindings.set, Bindings.get]

end Builder

namespace Follows

theorem empty (table : Option Identifier) (fair : ∀ name ∈ table, name.Fair dialect) :
    Follows dialect exact True { dialect, query := { table } } { table } where
  speaks := rfl
  agrees := { Dialect.Agrees.empty with table := rfl, tableFair := fair }
  projection := .refl
  join := rfl
  filter := .refl
  kept := iff_of_true rfl trivial
  having := rfl
  order := rfl
  union := .refl
  aggregate := rfl
  placed := fun _ => rfl
  bare := fun _ => rfl
  lone := fun _ => rfl

theorem behind (follows : Follows dialect exact kept builder draft) :
    Covers exact (builder.bindings.join ++ builder.bindings.filter ++ builder.bindings.having ++
      builder.bindings.order ++ builder.bindings.union)
      (draft.joinValues ++ draft.whereValues ++ draft.havingValues ++ draft.window.values ++
        draft.unionValues) :=
  ((((Covers.of_eq follows.join).append follows.filter).append (.of_eq follows.having)).append
    (.of_eq follows.order)).append follows.union

theorem values_select (follows : Follows dialect exact kept builder draft) :
    (draft.select dialect).values = draft.columnValues ++ (draft.joinValues ++ draft.whereValues ++
      draft.havingValues ++ draft.window.values ++ draft.unionValues) := by
  rw [Draft.values_select draft follows.placed, Draft.values_main,
    Draft.values_projection follows.aggregate]
  simp only [List.append_assoc]

theorem flatten (follows : Follows dialect exact kept builder draft) :
    Covers exact builder.bindings.flatten (draft.select dialect).values := by
  rw [follows.values_select, Bindings.flatten_eq]
  exact follows.projection.append follows.behind

theorem congr (follows : Follows dialect exact kept builder draft) (same : kept ↔ more) :
    Follows dialect exact more builder draft :=
  { follows with kept := follows.kept.trans same }

theorem absorb (follows : Follows dialect exact kept builder draft) (other : Builder) :
    Follows dialect exact kept (builder.absorb other) draft :=
  ⟨follows.speaks, follows.agrees, follows.projection, follows.join, follows.filter,
    follows.kept, follows.having, follows.order, follows.union, follows.aggregate, follows.placed,
    follows.bare, follows.lone⟩

/-! The select list and the table -/

theorem table (follows : Follows dialect exact kept builder draft) {table : Identifier}
    (fair : table.Fair dialect) :
    Follows dialect exact kept (builder.table table) { draft with table := some table } :=
  { follows with
    agrees := { follows.agrees with
      table := rfl
      tableFair := by
        rintro name ⟨⟩
        exact fair } }

theorem silentColumns {columns : List Identifier} (fair : ∀ column ∈ columns, column.Fair dialect) :
    List.Forall₂ dialect.Spells (columns.map dialect.columnRef)
      (columns.map fun column => Filled.ofText (dialect.columnRef column)) := by
  rw [List.forall₂_map_left_iff, List.forall₂_map_right_iff, List.forall₂_same]
  exact fun column member => Dialect.silent_columnRef (fair column member)

theorem select (follows : Follows dialect exact kept builder draft) {columns : List Identifier}
    (fair : ∀ column ∈ columns, column.Fair dialect) (spare : exact → draft.columnValues = []) :
    Follows dialect exact kept (builder.select columns)
      { draft with
        columns := columns.map fun column => Filled.ofText (dialect.columnRef column) } :=
  { follows with
    agrees := { follows.agrees with columns := silentColumns fair }
    projection := by
      have none : (columns.map fun column =>
          Filled.ofText (dialect.columnRef column)).flatMap Filled.values = [] := by
        simp [List.flatMap_map]
      refine ⟨by simp [Draft.columnValues, none], fun holds => ?_⟩
      rw [Draft.columnValues, none]
      exact (follows.projection.same holds).trans (spare holds) }

theorem addColumns (follows : Follows dialect exact kept builder draft) {columns : List Identifier}
    {texts : List Filled} {values : List Value}
    (spelled : List.Forall₂ dialect.Spells (columns.map dialect.columnRef) texts)
    (covers : Covers exact values (texts.flatMap Filled.values)) :
    Follows dialect exact kept ((builder.addSelect columns).bind .projection values)
      (draft.addColumns texts) :=
  { follows with
    agrees := { follows.agrees with
      columns := by
        change List.Forall₂ _ ((builder.query.columns ++ columns).map dialect.columnRef) _
        rw [List.map_append]
        exact List.rel_append follows.agrees.columns spelled }
    projection := by
      change Covers exact (builder.bindings.projection ++ values)
        ((draft.columns ++ texts).flatMap Filled.values)
      rw [List.flatMap_append]
      exact follows.projection.append covers }

theorem distinct (follows : Follows dialect exact kept builder draft) :
    Follows dialect exact kept builder.distinct { draft with distinct := true } :=
  { follows with
    agrees := { follows.agrees with
      distinct := rfl
      aggregateSilent := by
        intro aggregate counted
        have none : builder.query.aggregate = Option.none :=
          follows.agrees.aggregate.trans follows.aggregate
        rw [show builder.distinct.query.aggregate = builder.query.aggregate from rfl, none]
          at counted
        cases counted } }

/-! Joins -/

theorem addJoin (follows : Follows dialect exact kept builder draft) {join : Join}
    (taken : dialect.Joins join) :
    Follows dialect exact kept
      ((builder.bind .join join.bindings).change fun query =>
        { query with joins := query.joins ++ [join] })
      { draft with joins := draft.joins ++ [join] } :=
  { follows with
    agrees := { follows.agrees with
      joins := congrArg (· ++ [join]) follows.agrees.joins
      joinsFair := by
        intro other member
        rcases List.mem_append.mp member with before | last
        · exact follows.agrees.joinsFair other before
        · rw [List.mem_singleton.mp last]
          exact taken }
    join := by
      change builder.bindings.join ++ join.bindings = (draft.joins ++ [join]).flatMap Join.bindings
      rw [List.flatMap_append, follows.join]
      simp [Draft.joinValues] }

/-! Predicates -/

/-- A predicate with what is bound for it, which may be more than the text has places for. -/
theorem addWhere (follows : Follows dialect exact kept builder draft) {connective : Connective}
    {predicate : Predicate} {text : Filled} {values : List Value}
    (spelled : dialect.Spells (dialect.predicate predicate) text)
    (covers : Covers exact values text.values) (same : values = text.values ↔ more) :
    Follows dialect exact (kept ∧ more)
      ((builder.bind .filter values).addWhere connective predicate)
      (draft.addWhere connective text) := by
  have placed :
      (draft.addWhere connective text).whereValues = draft.whereValues ++ text.values := by
    simp [Draft.addWhere, Draft.whereValues]
  exact { follows with
    agrees := { follows.agrees with
      wheres := by
        change List.Forall₂ _
          (dialect.clauses (builder.query.wheres ++ [⟨connective, predicate⟩])) _
        rw [Dialect.clauses_append]
        exact List.rel_append follows.agrees.wheres (.cons ⟨rfl, spelled⟩ .nil) }
    filter := by
      rw [placed]
      exact follows.filter.append covers
    kept := by
      rw [placed, ← follows.kept, ← same]
      exact follows.filter.append_eq_iff covers
    bare := by simp [Draft.addWhere] }

theorem addSupplied (follows : Follows dialect exact kept builder draft) {connective : Connective}
    {predicate : Predicate} {text : Filled} {values : List Value}
    (spelled : dialect.Spells (dialect.predicate predicate) text) (same : values = text.values) :
    Follows dialect exact kept ((builder.bind .filter values).addWhere connective predicate)
      (draft.addWhere connective text) :=
  (follows.addWhere spelled (.of_eq same) (iff_of_true same trivial)).congr (and_iff_left trivial)

theorem addGroup (follows : Follows dialect exact kept builder draft) {connective : Connective}
    {nested : Builder} {part : Draft} (inner : Follows dialect exact more nested part) :
    Follows dialect exact (kept ∧ more) (builder.whereGroupOf connective nested)
      (draft.addGroup connective part.wheres) := by
  have outer := follows.absorb nested
  have each := inner.agrees.wheres
  unfold Builder.whereGroupOf Draft.addGroup
  cases wheres : nested.query.wheres with
  | nil =>
      have none : part.wheres = [] := by
        rw [wheres] at each
        simpa [Dialect.clauses] using each
      have inside : more := inner.kept.mp (by simp [inner.bare none, Draft.whereValues, none])
      rw [if_pos none]
      exact outer.congr (and_iff_left inside).symm
  | cons first rest =>
      have some : part.wheres ≠ [] := by
        intro none
        rw [wheres, none, Dialect.clauses_eq_map] at each
        cases each
      have values : (Filled.chain part.wheres).enclosed.values = part.whereValues := by
        rw [Filled.values_enclosed, Filled.values_chain]
        rfl
      rw [if_neg some]
      refine outer.addWhere ?_ (values ▸ inner.filter) (values ▸ inner.kept)
      rw [← wheres, Dialect.predicate]
      exact (Dialect.Spells.chain each).enclosed

theorem groupFrom {place : Nat} {wheres : List Clause} {texts : List (Connective × Filled)}
    (each : List.Forall₂ dialect.ChainSpells (dialect.clauses wheres) texts) :
    List.Forall₂ dialect.ChainSpells (dialect.clauses (Builder.groupFrom place wheres))
      (Draft.groupFrom place texts) := by
  have behind : List.Forall₂ dialect.ChainSpells (dialect.clauses (wheres.drop place))
      (texts.drop place) := by
    rw [Dialect.clauses_eq_map, List.map_drop, ← Dialect.clauses_eq_map]
    exact List.forall₂_drop place each
  have front : List.Forall₂ dialect.ChainSpells (dialect.clauses (wheres.take place))
      (texts.take place) := by
    rw [Dialect.clauses_eq_map, List.map_take, ← Dialect.clauses_eq_map]
    exact List.forall₂_take place each
  unfold Builder.groupFrom Draft.groupFrom
  generalize texts.drop place = members at behind ⊢
  cases added : wheres.drop place with
  | nil =>
      rw [added, Dialect.clauses_eq_map] at behind
      cases behind
      exact each
  | cons first rest =>
      rw [added, Dialect.clauses_eq_map] at behind
      cases behind with
      | cons head tail =>
          rw [Dialect.clauses_append]
          refine List.rel_append front (.cons ⟨head.connective, ?_⟩ .nil)
          rw [Dialect.predicate, Dialect.clauses_eq_map]
          exact (Dialect.Spells.chain (.cons head tail)).enclosed

/-- Predicates that are put into a group keep their values in order. -/
theorem values_groupFrom (place : Nat) (texts : List (Connective × Filled)) :
    ((Draft.groupFrom place texts).flatMap fun clause => clause.2.values) =
      texts.flatMap fun clause => clause.2.values := by
  unfold Draft.groupFrom
  cases added : texts.drop place with
  | nil => rfl
  | cons first rest =>
      conv => rhs; rw [← List.take_append_drop place texts, added]
      simp [Filled.values_chain]

theorem of_groupFrom_eq_nil {place : Nat} {texts : List (Connective × Filled)}
    (none : Draft.groupFrom place texts = []) : texts = [] := by
  unfold Draft.groupFrom at none
  split at none
  · exact none
  · simp at none

/-- What a scope added becomes a group. The values stay where they are. -/
theorem afterScope (follows : Follows dialect exact kept builder draft) (scope : Builder → Builder)
    {after : Draft} (inner : Follows dialect exact more (scope builder) after) :
    Follows dialect exact more (builder.applyScope scope) (draft.afterScope after) := by
  have count : builder.query.wheres.length = draft.wheres.length := by
    have same := follows.agrees.wheres.length_eq
    rwa [Dialect.clauses_eq_map, List.length_map] at same
  unfold Builder.applyScope Draft.afterScope
  by_cases none : draft.wheres = []
  · rw [if_pos none, if_pos (by rw [count, none]; rfl)]
    exact inner
  · rw [if_neg none, if_neg (by simpa [count] using none), count]
    exact { inner with
      agrees := { inner.agrees with wheres := groupFrom inner.agrees.wheres }
      filter := by
        rw [Draft.whereValues, values_groupFrom]
        exact inner.filter
      kept := by
        rw [Draft.whereValues, values_groupFrom]
        exact inner.kept
      bare := fun none => inner.bare (of_groupFrom_eq_nil none) }

/-! Groups -/

theorem groupBy (follows : Follows dialect exact kept builder draft) {columns : List Identifier}
    (fair : ∀ column ∈ columns, column.Fair dialect) :
    Follows dialect exact kept (builder.groupBy columns)
      { draft with groups := draft.groups ++ columns } :=
  { follows with
    agrees := { follows.agrees with
      groups := congrArg (· ++ columns) follows.agrees.groups
      groupsFair := by
        intro column member
        rcases List.mem_append.mp member with before | last
        · exact follows.agrees.groupsFair column before
        · exact fair column last } }

theorem addHaving (follows : Follows dialect exact kept builder draft) {connective : Connective}
    {predicate : Predicate} {text : Filled}
    (spelled : dialect.Spells (dialect.predicate predicate) text) :
    Follows dialect exact kept ((builder.bind .having text.values).addHaving connective predicate)
      (draft.addHaving connective text) :=
  { follows with
    agrees := { follows.agrees with
      havings := by
        change List.Forall₂ _
          (dialect.clauses (builder.query.havings ++ [⟨connective, predicate⟩])) _
        rw [Dialect.clauses_append]
        exact List.rel_append follows.agrees.havings (.cons ⟨rfl, spelled⟩ .nil) }
    having := by
      change builder.bindings.having ++ text.values =
        (draft.havings ++ [(connective, text)]).flatMap fun clause => clause.2.values
      rw [List.flatMap_append, follows.having]
      simp [Draft.havingValues] }

/-! Order and window -/

theorem single_iff (follows : Follows dialect exact kept builder draft) :
    builder.query.unions.isEmpty = true ↔ draft.branches = [] := by
  have each := follows.agrees.branches
  cases unions : builder.query.unions with
  | nil =>
      rw [unions] at each
      have none : draft.branches = [] := by simpa [Dialect.branches] using each
      simp [none]
  | cons first rest =>
      obtain ⟨query, keepsDuplicates⟩ := first
      rw [unions, Dialect.branches] at each
      have some : draft.branches ≠ [] := by
        intro none
        rw [none] at each
        cases each
      simp [some]

theorem changeWindow (follows : Follows dialect exact kept builder draft) {f : Window → Window}
    {g : DraftWindow → DraftWindow}
    (agrees : ∀ {window part}, dialect.WindowAgrees window part →
      dialect.WindowAgrees (f window) (g part))
    (values : ∀ part, (g part).values = part.values) :
    Follows dialect exact kept (builder.changeWindow f) (draft.changeWindow g) := by
  unfold Builder.changeWindow Draft.changeWindow
  by_cases single : draft.branches = []
  · simp only [Builder.change, if_pos single, if_pos (follows.single_iff.mpr single)]
    exact { follows with
      agrees := { follows.agrees with window := agrees follows.agrees.window }
      order := follows.order.trans (values _).symm }
  · simp only [Builder.change, if_neg single, if_neg (mt follows.single_iff.mp single)]
    exact { follows with
      agrees := { follows.agrees with unionWindow := agrees follows.agrees.unionWindow }
      union := by
        rw [Draft.unionValues, values]
        exact follows.union
      placed := fun none => absurd none single }

theorem addOrder (follows : Follows dialect exact kept builder draft) (order : Order)
    {text : Filled} (spelled : dialect.Spells (dialect.order order) text) :
    Follows dialect exact kept
      ((builder.bind (if builder.query.unions.isEmpty then .order else .union) text.values).addOrder
        order) (draft.addOrder text) := by
  have longer : ∀ {window : Window} {part : DraftWindow}, dialect.WindowAgrees window part →
      dialect.WindowAgrees { window with orders := window.orders ++ [order] }
        { part with orders := part.orders ++ [text] } := by
    intro window part agrees
    refine { agrees with orders := ?_ }
    rw [List.map_append]
    exact List.rel_append agrees.orders (.cons spelled .nil)
  unfold Builder.addOrder Builder.changeWindow Draft.addOrder Draft.changeWindow
  by_cases single : draft.branches = []
  · have alone := follows.single_iff.mpr single
    simp only [Builder.change, Builder.bind, alone, if_true, if_pos single]
    exact { follows with
      agrees := { follows.agrees with window := longer follows.agrees.window }
      order := by
        rw [DraftWindow.values_push, ← follows.order]
        rfl }
  · have united := mt follows.single_iff.mp single
    simp only [Builder.change, Builder.bind, if_neg united, if_neg single]
    exact { follows with
      agrees := { follows.agrees with unionWindow := longer follows.agrees.unionWindow }
      union := by
        rw [Draft.unionValues, DraftWindow.values_push, ← List.append_assoc]
        exact follows.union.append .refl
      placed := fun none => absurd none single
      lone := fun none => absurd none single }

/-! Unions and locks -/

/-- A branch with what is bound for it, which may be more than the text has places for. -/
theorem addBranch (follows : Follows dialect exact kept builder draft) {keepsDuplicates : Bool}
    {other : Builder} {text : Filled}
    (spelled : dialect.Spells (dialect.select other.query) text)
    (covers : Covers exact other.bindings.flatten text.values)
    (last : exact → draft.unionWindow.values = []) :
    Follows dialect exact kept (builder.union keepsDuplicates other)
      (draft.addBranch dialect keepsDuplicates text) := by
  have branch : dialect.Spells ((if keepsDuplicates then "UNION ALL " else "UNION ") ++
      dialect.unionSide (dialect.select other.query))
      (Filled.ofText (if keepsDuplicates then "UNION ALL " else "UNION ") ++
        Draft.unionSide dialect text) :=
    Dialect.Spells.prepend (by cases keepsDuplicates <;> decide) spelled.unionSide
  exact { follows with
    agrees := { follows.agrees with
      branches := by
        change List.Forall₂ _
          (dialect.branches (builder.query.unions ++ [⟨other.query, keepsDuplicates⟩])) _
        rw [Dialect.branches_append]
        exact List.rel_append follows.agrees.branches (.cons branch .nil) }
    union := by
      change Covers exact (builder.bindings.union ++ other.bindings.flatten)
        ((draft.addBranch dialect keepsDuplicates text).branches.flatMap Filled.values ++
          draft.unionWindow.values)
      rw [Draft.values_addBranch]
      have both := follows.union.append covers
      rw [Draft.unionValues] at both
      constructor
      · have enough := both.enough
        simp only [List.length_append] at enough ⊢
        omega
      · intro holds
        rw [both.same holds, last holds]
        simp
    placed := by simp [Draft.addBranch]
    lone := by simp [Draft.addBranch] }

theorem setLock (follows : Follows dialect exact kept builder draft) {lock : Lock}
    (fair : lock.Fair dialect) :
    Follows dialect exact kept (builder.lock lock) { draft with lock := some lock } :=
  { follows with
    agrees := { follows.agrees with
      lock := rfl
      lockFair := by
        rintro other ⟨⟩
        exact fair } }

end Follows

end SqlToolkit
