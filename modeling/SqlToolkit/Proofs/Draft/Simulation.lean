import SqlToolkit.Proofs.Draft.Calls
/-!
Builders follow drafts through every chain of fair steps that leaves no fault behind.
-/

namespace SqlToolkit

/-! Faults: the first one is kept, so a builder without a fault has had none -/

namespace Builder

theorem fault_checked {builder next : Builder} {operator : String}
    (accepted : (builder.checked operator next).fault = none) :
    builder.dialect.vendor.knowsOperator operator = true ∧
      builder.checked operator next = next := by
  unfold checked at accepted ⊢
  split at accepted
  · rename_i known
    exact ⟨known, if_pos known⟩
  · simp [fail] at accepted

theorem fault_absorb {builder other : Builder} (accepted : (builder.absorb other).fault = none) :
    builder.fault = none ∧ other.fault = none := by
  simpa [absorb] using accepted

theorem fault_whereCompare {builder : Builder} {connective : Connective} {column : Identifier}
    {operator : String} {operand : Operand}
    (accepted : (builder.whereCompare connective column operator operand).fault = none) :
    builder.fault = none := by
  unfold whereCompare at accepted
  split at accepted
  · split at accepted
    · exact accepted
    · split at accepted
      · exact accepted
      · simp [fail] at accepted
  · rw [(fault_checked accepted).2] at accepted
    exact accepted

theorem fault_whereAll (conditions : List (Identifier × String × Operand)) {builder : Builder}
    (accepted : (conditions.foldl (fun nested (column, operator, operand) =>
      nested.whereCompare .and column operator operand) builder).fault = none) :
    builder.fault = none := by
  induction conditions generalizing builder with
  | nil => exact accepted
  | cons first rest ih => exact fault_whereCompare (ih accepted)

theorem fault_whereGroupOf {builder nested : Builder} {connective : Connective}
    (accepted : (builder.whereGroupOf connective nested).fault = none) :
    builder.fault = none ∧ nested.fault = none := by
  unfold whereGroupOf at accepted
  dsimp only at accepted
  split at accepted
  · exact fault_absorb accepted
  · exact fault_absorb accepted

theorem fault_whereQuery {builder sub : Builder} {connective : Connective} {column : Identifier}
    {operator : String}
    (accepted : (builder.whereQuery connective column operator sub).fault = none) :
    builder.fault = none ∧ sub.fault = none := by
  unfold whereQuery at accepted
  rw [(fault_checked accepted).2] at accepted
  exact fault_absorb accepted

theorem fault_applyScope {builder : Builder} {scope : Builder → Builder}
    (accepted : (builder.applyScope scope).fault = none) : (scope builder).fault = none := by
  unfold applyScope at accepted
  dsimp only at accepted
  split at accepted
  · exact accepted
  · exact accepted

mutual

theorem fault_step : ∀ (step : Step) {builder : Builder},
    (builder.step step).fault = none → builder.fault = none
  | .table _, _, accepted => accepted
  | .select _, _, accepted => accepted
  | .addSelect _, _, accepted => accepted
  | .selectRaw _ _, _, accepted => accepted
  | .selectQuery _ _, _, accepted => (fault_absorb accepted).1
  | .distinct, _, accepted => accepted
  | .join join, builder, accepted => by
      change (Builder.join builder join).fault = none at accepted
      unfold Builder.join at accepted
      split at accepted
      · simp [fail] at accepted
      · exact accepted
  | .whereCompare _ _ _ _, _, accepted => fault_whereCompare accepted
  | .whereAll _, _, accepted => (fault_whereGroupOf accepted).1
  | .whereRecord _, _, accepted => (fault_whereGroupOf accepted).1
  | .whereGroup _ _, _, accepted => (fault_whereGroupOf accepted).1
  | .whereGroupOf _ _, _, accepted => (fault_whereGroupOf accepted).1
  | .whereQuery _ _ _ _, _, accepted => (fault_whereQuery accepted).1
  | .whereColumns connective first operator second, builder, accepted => by
      change (builder.whereColumns connective first operator second).fault = none at accepted
      unfold whereColumns at accepted
      rw [(fault_checked accepted).2] at accepted
      exact accepted
  | .whereIn _ _ _ _, _, accepted => accepted
  | .whereInQuery _ _ _ _, _, accepted => (fault_absorb accepted).1
  | .whereNull _ _ _, _, accepted => accepted
  | .whereBetween _ _ _ _ _, _, accepted => accepted
  | .whereExists _ _ _, _, accepted => (fault_absorb accepted).1
  | .whereDate connective part column operator operand, builder, accepted => by
      change (builder.whereDate connective part column operator operand).fault = none at accepted
      unfold whereDate at accepted
      rw [(fault_checked accepted).2] at accepted
      exact accepted
  | .whereRaw _ _ _, _, accepted => accepted
  | .applyScope steps, _, accepted => fault_run steps (fault_applyScope accepted)
  | .groupBy _, _, accepted => accepted
  | .having connective column operator operand, builder, accepted => by
      change (builder.having connective column operator operand).fault = none at accepted
      unfold having at accepted
      rw [(fault_checked accepted).2] at accepted
      exact accepted
  | .havingRaw _ _ _, _, accepted => accepted
  | .orderBy _ _, _, accepted => accepted
  | .orderByRaw _ _, _, accepted => accepted
  | .limit count, builder, accepted => by
      change (builder.limit count).fault = none at accepted
      unfold limit at accepted
      split at accepted
      · simp [fail] at accepted
      · exact accepted
  | .offset _, _, accepted => accepted
  | .forPage _ _, _, accepted => accepted
  | .union _ _, _, accepted => (fault_absorb accepted).1
  | .lock _, _, accepted => accepted
  | .setBindings values bucket, builder, accepted => by
      change (builder.setBindings values bucket).fault = none at accepted
      unfold setBindings at accepted
      split at accepted
      · exact accepted
      · simp [fail] at accepted
  | .addBinding value bucket, builder, accepted => by
      change (builder.addBinding value bucket).fault = none at accepted
      unfold addBinding at accepted
      split at accepted
      · exact accepted
      · simp [fail] at accepted
  | .mergeBindings _, _, accepted => accepted
  | .mergeWheres _ _, _, accepted => accepted

theorem fault_run : ∀ (steps : List Step) {builder : Builder},
    (builder.run steps).fault = none → builder.fault = none
  | [], _, accepted => accepted
  | first :: rest, _, accepted => fault_step first (fault_run rest accepted)

end

end Builder

/-! Calls with arguments of their own -/

namespace Follows

variable {dialect : Dialect} {exact kept more : Prop} {builder : Builder} {draft : Draft}

theorem fresh (follows : Follows dialect exact kept builder draft) :
    Follows dialect exact True builder.fresh {} := by
  rw [Builder.fresh, follows.speaks]
  exact .empty none (by simp)

theorem nested (follows : Follows dialect exact kept builder draft) :
    Follows dialect exact True
      (builder.fresh.change fun query => { query with table := builder.query.table })
      { table := draft.table } := by
  rw [← follows.agrees.table, Builder.fresh, follows.speaks]
  exact .empty builder.query.table follows.agrees.tableFair

theorem addSilent (follows : Follows dialect exact kept builder draft) {connective : Connective}
    {predicate : Predicate} {text : Filled}
    (spelled : dialect.Spells (dialect.predicate predicate) text) (silent : text.values = []) :
    Follows dialect exact kept (builder.addWhere connective predicate)
      (draft.addWhere connective text) := by
  have added : Follows dialect exact kept
      ((builder.bind .filter []).addWhere connective predicate) (draft.addWhere connective text) :=
    follows.addSupplied spelled silent.symm
  rwa [Builder.bind_nil] at added

theorem whereCompare (follows : Follows dialect exact kept builder draft) {connective : Connective}
    {column : Identifier} {operator : String} {operand : Operand} (left : column.Fair dialect)
    (right : operand.Fair dialect)
    (accepted : (builder.whereCompare connective column operator operand).fault = none) :
    Follows dialect exact kept (builder.whereCompare connective column operator operand)
      (draft.addWhere connective (Filled.condition dialect column operator operand)) := by
  have test : ∀ negated, Follows dialect exact kept
      (builder.addWhere connective (.isNull negated column))
      (draft.addWhere connective (Filled.nullTest dialect negated column)) := by
    intro negated
    refine follows.addSilent ?_ (Filled.values_ofText _)
    rw [Dialect.predicate]
    exact Dialect.silent_nullTest left
  unfold Builder.whereCompare at accepted ⊢
  unfold Filled.condition
  by_cases null : operand.isNull = true
  · rw [if_pos null] at accepted ⊢
    rw [if_pos null]
    by_cases equal : operator = "="
    · rw [if_pos equal]
      simpa [equal] using test false
    · rw [if_neg equal] at accepted ⊢
      split at accepted
      · rename_i unequal
        rw [if_pos unequal]
        simpa [equal] using test true
      · simp [Builder.fail] at accepted
  · rw [if_neg null] at accepted ⊢
    rw [if_neg null]
    obtain ⟨known, taken⟩ := Builder.fault_checked accepted
    rw [taken]
    rw [follows.speaks] at known
    refine follows.addSupplied ?_ (by simp [Filled.comparison])
    rw [Dialect.predicate]
    exact Dialect.spells_comparison left known right

theorem whereAll {conditions : List (Identifier × String × Operand)}
    (follows : Follows dialect exact kept builder draft)
    (fair : ∀ condition ∈ conditions, condition.1.Fair dialect ∧ condition.2.2.Fair dialect)
    (accepted : (conditions.foldl (fun nested (column, operator, operand) =>
      nested.whereCompare .and column operator operand) builder).fault = none) :
    Follows dialect exact kept
      (conditions.foldl (fun nested (column, operator, operand) =>
        nested.whereCompare .and column operator operand) builder)
      { draft with wheres := draft.wheres ++ conditions.map fun (column, operator, operand) =>
        (.and, Filled.condition dialect column operator operand) } := by
  induction conditions generalizing builder draft with
  | nil => simpa using follows
  | cons first rest ih =>
      obtain ⟨column, operator, operand⟩ := first
      obtain ⟨left, right⟩ := fair _ List.mem_cons_self
      have single := follows.whereCompare left right (Builder.fault_whereAll rest accepted)
      have all := ih single (fun condition member => fair condition (List.mem_cons_of_mem _ member))
        accepted
      simpa [Draft.addWhere] using all

theorem joinTable (follows : Follows dialect exact kept builder draft) {join : Join}
    (fair : join.Fair dialect) (accepted : (builder.join join).fault = none) :
    Follows dialect exact kept (builder.join join)
      { draft with joins := draft.joins ++ [join] } := by
  unfold Builder.join at accepted ⊢
  split at accepted
  · simp [Builder.fail] at accepted
  · rename_i sound
    refine follows.addJoin ⟨fair, ?_⟩
    rw [follows.speaks] at sound
    unfold Builder.joinFault at sound
    split at sound
    · cases sound
    · exact sound

theorem whereRecord (follows : Follows dialect exact kept builder draft) {record : Record}
    (fair : ∀ entry ∈ record.entries, entry.2.Fair dialect)
    (accepted : (builder.whereRecord record).fault = none) :
    Follows dialect exact kept (builder.whereRecord record)
      (draft.addGroup .and (record.entries.map fun (column, operand) =>
        (.and, Filled.condition dialect (.named column) "=" operand))) := by
  have each : ∀ condition ∈ record.entries.map fun (column, operand) =>
      (Identifier.named column, "=", operand),
      condition.1.Fair dialect ∧ condition.2.2.Fair dialect := by
    intro condition member
    obtain ⟨entry, listed, rfl⟩ := List.mem_map.mp member
    exact ⟨trivial, fair entry listed⟩
  have nested := follows.nested.whereAll each (Builder.fault_whereGroupOf accepted).2
  rw [List.map_map, List.nil_append] at nested
  exact (follows.addGroup nested).congr (and_iff_left trivial)

theorem whereColumns (follows : Follows dialect exact kept builder draft) {connective : Connective}
    {first second : Identifier} {operator : String} (left : first.Fair dialect)
    (right : second.Fair dialect)
    (accepted : (builder.whereColumns connective first operator second).fault = none) :
    Follows dialect exact kept (builder.whereColumns connective first operator second)
      (draft.addWhere connective (Filled.ofText
        (dialect.columnRef first ++ " " ++ operator ++ " " ++ dialect.columnRef second))) := by
  unfold Builder.whereColumns at accepted ⊢
  obtain ⟨known, taken⟩ := Builder.fault_checked accepted
  rw [taken]
  rw [follows.speaks] at known
  refine follows.addSilent ?_ (Filled.values_ofText _)
  rw [Dialect.predicate]
  have front : dialect.Silent (dialect.columnRef first ++ " " ++ operator) :=
    (Dialect.silent_columnRef left).between (Dialect.inert_operator known).silent (by decide)
  exact front.between (Dialect.silent_columnRef right) (by decide)

theorem whereDate (follows : Follows dialect exact kept builder draft) {connective : Connective}
    {part : DatePart} {column : Identifier} {operator : String} {operand : Operand}
    (left : column.Fair dialect) (right : operand.Fair dialect)
    (accepted : (builder.whereDate connective part column operator operand).fault = none) :
    Follows dialect exact kept (builder.whereDate connective part column operator operand)
      (draft.addWhere connective
        (Filled.dateComparison dialect part column operator (operand.forDate dialect part))) := by
  have same : builder.whereDate connective part column operator operand =
      builder.checked operator
        ((builder.bind .filter (operand.forDate dialect part).bindings).addWhere connective
          (.compareDate part column operator (operand.forDate dialect part))) := by
    rw [← follows.speaks]
    cases operand <;> rfl
  have fair : (operand.forDate dialect part).Fair dialect := by
    cases operand with
    | bound value => trivial
    | verbatim sql => exact right
  rw [same] at accepted ⊢
  obtain ⟨known, taken⟩ := Builder.fault_checked accepted
  rw [taken]
  rw [follows.speaks] at known
  exact follows.addSupplied (Dialect.spells_dateComparison left known fair)
    (by simp [Filled.dateComparison])

theorem havingCompare (follows : Follows dialect exact kept builder draft) {connective : Connective}
    {column : Identifier} {operator : String} {operand : Operand} (left : column.Fair dialect)
    (right : operand.Fair dialect)
    (accepted : (builder.having connective column operator operand).fault = none) :
    Follows dialect exact kept (builder.having connective column operator operand)
      (draft.addHaving connective (Filled.comparison dialect column operator operand)) := by
  unfold Builder.having at accepted ⊢
  obtain ⟨known, taken⟩ := Builder.fault_checked accepted
  rw [taken]
  rw [follows.speaks] at known
  have values : (Filled.comparison dialect column operator operand).values = operand.bindings := by
    simp [Filled.comparison]
  rw [← values]
  refine follows.addHaving ?_
  rw [Dialect.predicate]
  exact Dialect.spells_comparison left known right

theorem limit (follows : Follows dialect exact kept builder draft) (count : Int)
    (accepted : (builder.limit count).fault = none) :
    Follows dialect exact kept (builder.limit count)
      (draft.changeWindow fun window => { window with limit := some count.toNat }) := by
  unfold Builder.limit at accepted ⊢
  split at accepted
  · simp [Builder.fail] at accepted
  · rename_i natural
    rw [if_neg natural]
    exact follows.changeWindow (fun agrees => { agrees with limit := rfl }) fun _ => rfl

theorem addSelect (follows : Follows dialect exact kept builder draft) {columns : List Identifier}
    (fair : ∀ column ∈ columns, column.Fair dialect) :
    Follows dialect exact kept (builder.addSelect columns)
      (draft.addColumns (columns.map fun column => Filled.ofText (dialect.columnRef column))) := by
  have added : Follows dialect exact kept ((builder.addSelect columns).bind .projection [])
      (draft.addColumns (columns.map fun column => Filled.ofText (dialect.columnRef column))) :=
    follows.addColumns (silentColumns fair) (.of_eq (by simp [List.flatMap_map]))
  rwa [Builder.bind_nil] at added

theorem selectRaw (follows : Follows dialect exact kept builder draft) {sql : String}
    {values : List Value} (fair : dialect.Supplied sql values) :
    Follows dialect exact kept (builder.selectRaw sql values)
      (draft.addColumns [dialect.supply sql values]) :=
  follows.addColumns (.cons fair.spells .nil) (.of_eq (by simp [fair.values]))

theorem whereNull (follows : Follows dialect exact kept builder draft) {connective : Connective}
    {negated : Bool} {column : Identifier} (fair : column.Fair dialect) :
    Follows dialect exact kept (builder.whereNull connective negated column)
      (draft.addWhere connective (Filled.nullTest dialect negated column)) := by
  refine follows.addSilent ?_ (Filled.values_ofText _)
  rw [Dialect.predicate]
  exact Dialect.silent_nullTest fair

theorem whereIn (follows : Follows dialect exact kept builder draft) {connective : Connective}
    {negated : Bool} {column : Identifier} {operands : List Operand} (fair : column.Fair dialect)
    (each : ∀ operand ∈ operands, operand.Fair dialect) :
    Follows dialect exact kept (builder.whereIn connective negated column operands)
      (draft.addWhere connective (Filled.membership dialect negated column operands)) := by
  refine follows.addSupplied (Dialect.spells_membership fair each) ?_
  by_cases empty : operands = []
  · simp [Filled.membership, empty]
  · simp [Filled.membership, empty, Filled.values_join, List.flatMap_map]

theorem whereBetween (follows : Follows dialect exact kept builder draft) {connective : Connective}
    {negated : Bool} {column : Identifier} {low high : Operand} (fair : column.Fair dialect)
    (lowFair : low.Fair dialect) (highFair : high.Fair dialect) :
    Follows dialect exact kept (builder.whereBetween connective negated column low high)
      (draft.addWhere connective (Filled.range dialect negated column low high)) :=
  follows.addSupplied (Dialect.spells_range fair lowFair highFair) (by simp [Filled.range])

theorem whereRaw (follows : Follows dialect exact kept builder draft) {connective : Connective}
    {sql : String} {values : List Value} (fair : dialect.Supplied sql values) :
    Follows dialect exact kept (builder.whereRaw connective sql values)
      (draft.addWhere connective (dialect.supply sql values)) := by
  refine follows.addSupplied ?_ fair.values.symm
  rw [Dialect.predicate]
  exact fair.spells

theorem havingRaw (follows : Follows dialect exact kept builder draft) {connective : Connective}
    {sql : String} {values : List Value} (fair : dialect.Supplied sql values) :
    Follows dialect exact kept (builder.havingRaw connective sql values)
      (draft.addHaving connective (dialect.supply sql values)) := by
  have spelled : dialect.Spells (dialect.predicate (.raw sql)) (dialect.supply sql values) := by
    rw [Dialect.predicate]
    exact fair.spells
  have added : Follows dialect exact kept
      ((builder.bind .having (dialect.supply sql values).values).addHaving connective (.raw sql))
      (draft.addHaving connective (dialect.supply sql values)) :=
    follows.addHaving spelled
  rwa [fair.values] at added

theorem orderBy (follows : Follows dialect exact kept builder draft) {column : Identifier}
    {direction : Direction} (fair : column.Fair dialect) :
    Follows dialect exact kept (builder.orderBy column direction)
      (draft.addOrder (Filled.ofText (dialect.columnRef column ++ " " ++ direction.text))) := by
  have word : dialect.Silent direction.text :=
    Dialect.Inert.silent (by cases direction <;> decide)
  have added := follows.addOrder (.column column direction)
    ((Dialect.silent_columnRef fair).between word (by decide))
  rwa [Filled.values_ofText, Builder.bind_nil] at added

theorem orderByRaw (follows : Follows dialect exact kept builder draft) {sql : String}
    {values : List Value} (fair : dialect.Supplied sql values) :
    Follows dialect exact kept (builder.orderByRaw sql values)
      (draft.addOrder (dialect.supply sql values)) := by
  have added := follows.addOrder (.raw sql) fair.spells
  rwa [fair.values] at added

theorem offset (follows : Follows dialect exact kept builder draft) {count : Int} :
    Follows dialect exact kept (builder.offset count)
      (draft.changeWindow fun window => { window with offset := some count.toNat }) :=
  follows.changeWindow (fun agrees => { agrees with offset := rfl }) fun _ => rfl

theorem forPage (follows : Follows dialect exact kept builder draft) {page perPage : Nat} :
    Follows dialect exact kept (builder.forPage page perPage)
      (draft.changeWindow fun window => { window with
        offset := some (Number.saturatingMul (page - 1) perPage), limit := some perPage }) :=
  follows.changeWindow (fun agrees => { agrees with limit := rfl, offset := rfl }) fun _ => rfl

/-! Queries inside the query -/

variable {sub : Builder} {part : Draft}

theorem selectQuery (follows : Follows dialect exact kept builder draft)
    (inner : Follows dialect exact more sub part) (shown : String) :
    Follows dialect exact kept (builder.selectQuery sub shown)
      (draft.addColumns [(part.select dialect).enclosed ++
        Filled.ofText (" AS " ++ dialect.quoted shown)]) := by
  have name : dialect.Silent (" AS " ++ dialect.quoted shown) :=
    Dialect.Silent.prepend (by decide) (Dialect.silent_quoted shown)
  have column : dialect.Spells ("(" ++ builder.dialect.select sub.query ++ ") AS " ++
      builder.dialect.quoted shown)
      ((part.select dialect).enclosed ++ Filled.ofText (" AS " ++ dialect.quoted shown)) := by
    rw [follows.speaks]
    refine (Dialect.Spells.append inner.agrees.select.enclosed name
      (.of_joint (by decide))).cast ?_
    simp only [String.append_assoc]
    rfl
  refine (follows.absorb sub).addColumns (.cons column .nil) ?_
  simpa using inner.flatten

/-- A predicate around the select statement of another builder. -/
theorem addQuery {positional : Prop} (follows : Follows dialect exact kept builder draft)
    (inner : Follows dialect exact more sub part) {connective : Connective} {predicate : Predicate}
    {front : String} (silent : dialect.Silent front)
    (apart : Dialect.Apart front (dialect.select sub.query))
    (written : dialect.predicate predicate = front ++ dialect.select sub.query ++ ")")
    (fits : sub.bindings.flatten = (part.select dialect).values ↔ positional) :
    Follows dialect exact (kept ∧ positional)
      (((builder.absorb sub).bind .filter sub.bindings.flatten).addWhere connective predicate)
      (draft.addWhere connective
        (Filled.ofText front ++ part.select dialect ++ Filled.ofText ")")) := by
  have values : (Filled.ofText front ++ part.select dialect ++ Filled.ofText ")").values =
      (part.select dialect).values := by
    simp
  refine (follows.absorb sub).addWhere ?_ (values ▸ inner.flatten) (values ▸ fits)
  rw [written]
  exact (Dialect.Spells.append silent inner.agrees.select apart).close (by decide)

theorem whereQuery {positional : Prop} (follows : Follows dialect exact kept builder draft)
    (inner : Follows dialect exact more sub part) {connective : Connective} {column : Identifier}
    {operator : String} (fair : column.Fair dialect)
    (fits : sub.bindings.flatten = (part.select dialect).values ↔ positional)
    (accepted : (builder.whereQuery connective column operator sub).fault = none) :
    Follows dialect exact (kept ∧ positional) (builder.whereQuery connective column operator sub)
      (draft.addWhere connective
        (Filled.ofText (dialect.columnRef column ++ " " ++ operator ++ " (") ++
          part.select dialect ++ Filled.ofText ")")) := by
  unfold Builder.whereQuery at accepted ⊢
  obtain ⟨known, taken⟩ := Builder.fault_checked accepted
  rw [taken]
  rw [follows.speaks] at known
  have front : dialect.Silent (dialect.columnRef column ++ " " ++ operator ++ " (") :=
    ((Dialect.silent_columnRef fair).between (Dialect.inert_operator known).silent
      (by decide)).close (by decide)
  exact follows.addQuery inner front (.of_joint (by decide)) (by rw [Dialect.predicate])
    fits

theorem whereInQuery {positional : Prop} (follows : Follows dialect exact kept builder draft)
    (inner : Follows dialect exact more sub part) {connective : Connective} {negated : Bool}
    {column : Identifier} (fair : column.Fair dialect)
    (fits : sub.bindings.flatten = (part.select dialect).values ↔ positional) :
    Follows dialect exact (kept ∧ positional) (builder.whereInQuery connective negated column sub)
      (draft.addWhere connective
        (Filled.ofText (dialect.columnRef column ++ " " ++ Dialect.negation negated ++ "IN (") ++
          part.select dialect ++ Filled.ofText ")")) :=
  follows.addQuery inner (Dialect.silent_negated fair (by decide))
    (.of_joint (by decide)) (by rw [Dialect.predicate]) fits

theorem whereExists {positional : Prop} (follows : Follows dialect exact kept builder draft)
    (inner : Follows dialect exact more sub part) {connective : Connective} {negated : Bool}
    (fits : sub.bindings.flatten = (part.select dialect).values ↔ positional) :
    Follows dialect exact (kept ∧ positional) (builder.whereExists connective negated sub)
      (draft.addWhere connective (Filled.ofText (Dialect.negation negated ++ "EXISTS (") ++
        part.select dialect ++ Filled.ofText ")")) :=
  follows.addQuery inner (Dialect.Inert.silent (by cases negated <;> decide))
    (.of_joint (by decide)) (by rw [Dialect.predicate]) fits

theorem fill_iff (follows : Follows dialect exact kept builder draft) (values : List Value) :
    dialect.fill (dialect.select builder.query) values = some (draft.select dialect) ↔
      values = (draft.select dialect).values :=
  follows.agrees.select.fill_eq_some_iff

theorem positional_iff (follows : Follows dialect exact kept builder draft) {steps : List Step}
    (inner : Follows dialect exact more (builder.fresh.run steps) (Draft.run dialect {} steps)) :
    (builder.fresh.run steps).bindings.flatten =
        ((Draft.run dialect {} steps).select dialect).values ↔
      Positional dialect steps := by
  rw [← inner.fill_iff, Builder.fresh, follows.speaks]
  rfl

theorem plain (follows : Follows dialect exact kept builder draft) :
    Follows dialect exact (kept ∧ True) builder draft :=
  follows.congr (and_iff_left trivial).symm

theorem inGroup (follows : Follows dialect exact (kept ∧ True ∧ more) builder draft) :
    Follows dialect exact (kept ∧ more) builder draft :=
  follows.congr (and_congr_right fun _ => and_iff_right trivial)

/-! Steps and runs -/

mutual

/-- One fair step keeps builder and draft together. The values stay exactly those of the draft as
long as the steps are orderly, and those of the predicates as long as the queries in them are
positional. -/
theorem step : ∀ (step : Step) {kept : Prop} {builder : Builder} {draft : Draft},
    Follows dialect exact kept builder draft → step.Fair dialect →
    (exact → step.Orderly dialect draft) → (builder.step step).fault = none →
    Follows dialect exact (kept ∧ step.QueriesPositional dialect) (builder.step step)
      (Draft.step dialect draft step)
  | .table _, _, _, _, follows, fair, _, _ => (follows.table fair).plain
  | .select _, _, _, _, follows, fair, orderly, _ => (follows.select fair orderly).plain
  | .addSelect _, _, _, _, follows, fair, _, _ => (follows.addSelect fair).plain
  | .selectRaw _ _, _, _, _, follows, fair, _, _ => (follows.selectRaw fair).plain
  | .selectQuery steps shown, _, _, _, follows, fair, orderly, accepted =>
      (follows.selectQuery
        (run steps follows.fresh fair orderly (Builder.fault_absorb accepted).2) shown).plain
  | .distinct, _, _, _, follows, _, _, _ => follows.distinct.plain
  | .join _, _, _, _, follows, fair, _, accepted => (follows.joinTable fair accepted).plain
  | .whereCompare _ _ _ _, _, _, _, follows, fair, _, accepted =>
      (follows.whereCompare fair.1 fair.2 accepted).plain
  | .whereAll _, _, _, _, follows, fair, _, accepted =>
      follows.addGroup (follows.nested.whereAll fair (Builder.fault_whereGroupOf accepted).2)
  | .whereRecord _, _, _, _, follows, fair, _, accepted => (follows.whereRecord fair accepted).plain
  | .whereGroup _ steps, _, _, _, follows, fair, orderly, accepted =>
      (follows.addGroup
        (run steps follows.nested fair orderly (Builder.fault_whereGroupOf accepted).2)).inGroup
  | .whereGroupOf _ steps, _, _, _, follows, fair, orderly, accepted =>
      (follows.addGroup
        (run steps follows.fresh fair orderly (Builder.fault_whereGroupOf accepted).2)).inGroup
  | .whereQuery _ _ _ steps, _, _, _, follows, fair, orderly, accepted =>
      let inner := run steps follows.fresh fair.2 orderly (Builder.fault_whereQuery accepted).2
      follows.whereQuery inner fair.1 (follows.positional_iff inner) accepted
  | .whereColumns _ _ _ _, _, _, _, follows, fair, _, accepted =>
      (follows.whereColumns fair.1 fair.2 accepted).plain
  | .whereIn _ _ _ _, _, _, _, follows, fair, _, _ => (follows.whereIn fair.1 fair.2).plain
  | .whereInQuery _ _ _ steps, _, _, _, follows, fair, orderly, accepted =>
      let inner := run steps follows.fresh fair.2 orderly (Builder.fault_absorb accepted).2
      follows.whereInQuery inner fair.1 (follows.positional_iff inner)
  | .whereNull _ _ _, _, _, _, follows, fair, _, _ => (follows.whereNull fair).plain
  | .whereBetween _ _ _ _ _, _, _, _, follows, fair, _, _ =>
      (follows.whereBetween fair.1 fair.2.1 fair.2.2).plain
  | .whereExists _ _ steps, _, _, _, follows, fair, orderly, accepted =>
      let inner := run steps follows.fresh fair orderly (Builder.fault_absorb accepted).2
      follows.whereExists inner (follows.positional_iff inner)
  | .whereDate _ _ _ _ _, _, _, _, follows, fair, _, accepted =>
      (follows.whereDate fair.1 fair.2 accepted).plain
  | .whereRaw _ _ _, _, _, _, follows, fair, _, _ => (follows.whereRaw fair).plain
  | .applyScope steps, _, _, _, follows, fair, orderly, accepted =>
      follows.afterScope (fun inner => inner.run steps)
        (run steps follows fair orderly (Builder.fault_applyScope accepted))
  | .groupBy _, _, _, _, follows, fair, _, _ => (follows.groupBy fair).plain
  | .having _ _ _ _, _, _, _, follows, fair, _, accepted =>
      (follows.havingCompare fair.1 fair.2 accepted).plain
  | .havingRaw _ _ _, _, _, _, follows, fair, _, _ => (follows.havingRaw fair).plain
  | .orderBy _ _, _, _, _, follows, fair, _, _ => (follows.orderBy fair).plain
  | .orderByRaw _ _, _, _, _, follows, fair, _, _ => (follows.orderByRaw fair).plain
  | .limit count, _, _, _, follows, _, _, accepted => (follows.limit count accepted).plain
  | .offset _, _, _, _, follows, _, _, _ => follows.offset.plain
  | .forPage _ _, _, _, _, follows, _, _, _ => follows.forPage.plain
  | .union _ steps, _, _, _, follows, fair, orderly, accepted =>
      let inner := run steps follows.fresh fair (fun holds => (orderly holds).2)
        (Builder.fault_absorb accepted).2
      (follows.addBranch inner.agrees.select inner.flatten fun holds => (orderly holds).1).plain
  | .lock _, _, _, _, follows, fair, _, _ => (follows.setLock fair).plain
  | .setBindings _ _, _, _, _, _, fair, _, _ => fair.elim
  | .addBinding _ _, _, _, _, _, fair, _, _ => fair.elim
  | .mergeBindings _, _, _, _, _, fair, _, _ => fair.elim
  | .mergeWheres _ _, _, _, _, _, fair, _, _ => fair.elim

theorem run : ∀ (steps : List Step) {kept : Prop} {builder : Builder} {draft : Draft},
    Follows dialect exact kept builder draft → FairSteps dialect steps →
    (exact → OrderlySteps dialect draft steps) → (builder.run steps).fault = none →
    Follows dialect exact (kept ∧ QueriesPositional dialect steps) (builder.run steps)
      (Draft.run dialect draft steps)
  | [], _, _, _, follows, _, _, _ => follows.plain
  | first :: rest, _, _, _, follows, fair, orderly, accepted =>
      let stepped := step first follows fair.1 (fun holds => (orderly holds).1)
        (Builder.fault_run rest accepted)
      (run rest stepped fair.2 (fun holds => (orderly holds).2) accepted).congr and_assoc

end

theorem chain {steps : List Step} (fair : FairSteps dialect steps)
    (orderly : exact → OrderlySteps dialect {} steps)
    (accepted : (({ dialect } : Builder).run steps).fault = none) :
    Follows dialect exact (QueriesPositional dialect steps) (({ dialect } : Builder).run steps)
      (Draft.run dialect {} steps) :=
  (run steps (.empty none (by simp)) fair orderly accepted).congr (and_iff_right trivial)

end Follows

theorem Positional.of_orderly {dialect : Dialect} {steps : List Step}
    (fair : FairSteps dialect steps) (orderly : OrderlySteps dialect {} steps)
    (accepted : (({ dialect } : Builder).run steps).fault = none) : Positional dialect steps := by
  have follows : Follows dialect True _ _ _ := .chain fair (fun _ => orderly) accepted
  exact (follows.fill_iff _).mpr (follows.flatten.same trivial)

end SqlToolkit
