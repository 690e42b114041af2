import SqlToolkit.Proofs.Chains.Calls
import SqlToolkit.Proofs.Precedence.Predicates
/-!
Chains of calls put no group without members into a query, whatever is refused on the way, so that
what they build can be read at every assignment of truth values.
-/

namespace SqlToolkit.Builder

/-- The predicates of the builder have no group without members. -/
def Populated (builder : Builder) : Prop :=
  Clause.Populated builder.query.wheres

section Added

variable {builder : Builder} {connective : Connective}

theorem Populated.addWhere {predicate : Predicate} (populated : builder.Populated)
    (added : predicate.Populated) : (builder.addWhere connective predicate).Populated :=
  Clause.populated_append.mpr ⟨populated, added, trivial⟩

theorem Populated.checked {operator : String} {next : Builder} (populated : builder.Populated)
    (taken : next.Populated) : (builder.checked operator next).Populated := by
  unfold Builder.checked
  split
  · exact taken
  · exact populated

theorem Populated.whereCompare {column : Identifier} {operator : String} {operand : Operand}
    (populated : builder.Populated) :
    (builder.whereCompare connective column operator operand).Populated := by
  have bound : (builder.bind .filter operand.bindings).Populated := populated
  unfold Builder.whereCompare
  split
  · split
    · exact populated.addWhere trivial
    · split
      · exact populated.addWhere trivial
      · exact populated
  · exact populated.checked (bound.addWhere trivial)

theorem Populated.compareAll {conditions : List (Identifier × String × Operand)}
    (populated : builder.Populated) :
    (conditions.foldl (fun nested (column, operator, operand) =>
      nested.whereCompare .and column operator operand) builder).Populated := by
  induction conditions generalizing builder with
  | nil => exact populated
  | cons condition rest ih => exact ih populated.whereCompare

/-- A group is added only if it has members. -/
theorem Populated.whereGroupOf {nested : Builder} (populated : builder.Populated)
    (inner : nested.Populated) : (builder.whereGroupOf connective nested).Populated := by
  have absorbed : ((builder.absorb nested).bind .filter nested.bindings.filter).Populated :=
    populated
  unfold Builder.whereGroupOf
  dsimp only
  split
  · exact populated
  · rename_i some
    exact absorbed.addWhere ⟨by simpa using some, inner⟩

theorem Populated.whereAll {conditions : List (Identifier × String × Operand)}
    (populated : builder.Populated) : (builder.whereAll conditions).Populated := by
  have blank : (builder.fresh.change fun query =>
      { query with table := builder.query.table }).Populated := trivial
  exact populated.whereGroupOf blank.compareAll

theorem populated_groupFrom {wheres : List Clause} (place : Nat)
    (populated : Clause.Populated wheres) : Clause.Populated (groupFrom place wheres) := by
  obtain same | ⟨front, first, rest, rfl, grouped⟩ := groupFrom_cases place wheres
  · rwa [same]
  · obtain ⟨before, members⟩ := Clause.populated_append.mp populated
    rw [grouped]
    exact Clause.populated_append.mpr ⟨before, ⟨by simp, members⟩, trivial⟩

theorem Populated.applyScope {scope : Builder → Builder} (populated : (scope builder).Populated) :
    (builder.applyScope scope).Populated := by
  unfold Builder.applyScope
  dsimp only
  split
  · exact populated
  · exact populated_groupFrom _ populated

/-! Calls that leave the predicates alone -/

theorem Populated.changeWindow {f : Window → Window} (populated : builder.Populated) :
    (builder.changeWindow f).Populated := by
  unfold Builder.changeWindow Builder.change
  dsimp only [Populated]
  split <;> exact populated

theorem Populated.limit {count : Int} (populated : builder.Populated) :
    (builder.limit count).Populated := by
  unfold Builder.limit
  split
  · exact populated
  · exact populated.changeWindow

theorem Populated.join {join : Join} (populated : builder.Populated) :
    (builder.join join).Populated := by
  unfold Builder.join
  split <;> exact populated

theorem Populated.setBindings {values : List Value} {bucket : String}
    (populated : builder.Populated) : (builder.setBindings values bucket).Populated := by
  unfold Builder.setBindings
  split <;> exact populated

theorem Populated.addBinding {value : Value} {bucket : String} (populated : builder.Populated) :
    (builder.addBinding value bucket).Populated := by
  unfold Builder.addBinding
  split <;> exact populated

end Added

/-! Chains -/

mutual

theorem Populated.step : ∀ (step : Step) (builder : Builder), builder.Populated →
    (builder.step step).Populated
  | .whereCompare _ _ _ _, _, populated => populated.whereCompare
  | .whereAll _, _, populated | .whereRecord _, _, populated => populated.whereAll
  -- The chain of a group starts without predicates, that of a scope goes on with those there are.
  | .whereGroup _ steps, _, populated | .whereGroupOf _ steps, _, populated =>
      populated.whereGroupOf (Populated.run steps _ trivial)
  | .whereQuery _ _ _ _, _, populated | .whereColumns _ _ _ _, _, populated
  | .whereDate _ _ _ _ _, _, populated =>
      populated.checked (Clause.populated_append.mpr ⟨populated, trivial, trivial⟩)
  | .whereIn _ _ _ _, _, populated | .whereInQuery _ _ _ _, _, populated
  | .whereNull _ _ _, _, populated | .whereBetween _ _ _ _ _, _, populated
  | .whereExists _ _ _, _, populated | .whereRaw _ _ _, _, populated =>
      Clause.populated_append.mpr ⟨populated, trivial, trivial⟩
  | .applyScope steps, builder, populated =>
      Populated.applyScope (Populated.run steps builder populated)
  | .mergeWheres steps _, builder, populated =>
      Clause.populated_append.mpr ⟨populated, Populated.run steps builder.fresh trivial⟩
  | .join _, _, populated => populated.join
  | .orderByRaw _ values, builder, populated =>
      have bound (bucket : Bucket) : (builder.bind bucket values).Populated := populated
      (bound _).changeWindow
  | .orderBy _ _, _, populated | .offset _, _, populated | .forPage _ _, _, populated =>
      populated.changeWindow
  | .limit _, _, populated => populated.limit
  | .setBindings _ _, _, populated => populated.setBindings
  | .addBinding _ _, _, populated => populated.addBinding
  | .having _ _ _ _, _, populated => populated.checked populated
  | .table _, _, populated | .select _, _, populated | .addSelect _, _, populated
  | .selectRaw _ _, _, populated | .selectQuery _ _, _, populated | .distinct, _, populated
  | .groupBy _, _, populated | .havingRaw _ _ _, _, populated | .union _ _, _, populated
  | .lock _, _, populated | .mergeBindings _, _, populated => populated

theorem Populated.run : ∀ (steps : List Step) (builder : Builder), builder.Populated →
    (builder.run steps).Populated
  | [], _, populated => populated
  | first :: rest, builder, populated =>
      Populated.run rest (builder.step first) (Populated.step first builder populated)

end

end SqlToolkit.Builder
