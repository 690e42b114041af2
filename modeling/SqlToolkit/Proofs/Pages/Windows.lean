import SqlToolkit.Proofs.Draft.Simulation
/-!
Chains with and without the calls for an order or a window. Both build the same query, apart from
its windows and the values that are bound to an order.
-/

namespace SqlToolkit

/-! Chains without windows -/

mutual

/-- What is left of a step without its calls for an order or a window. A scope is run on the builder
itself, so its calls are left out as well. -/
def Step.bare : Step → List Step
  | .orderBy _ _ => []
  | .orderByRaw _ _ => []
  | .limit _ => []
  | .offset _ => []
  | .forPage _ _ => []
  | .applyScope steps => [.applyScope (bareSteps steps)]
  | step => [step]

def bareSteps : List Step → List Step
  | [] => []
  | first :: rest => first.bare ++ bareSteps rest

end

namespace Builder

theorem run_append (first second : List Step) (builder : Builder) :
    builder.run (first ++ second) = (builder.run first).run second := by
  induction first generalizing builder with
  | nil => rfl
  | cons step rest ih => exact ih (builder.step step)

/-- The builder with other windows and other values where an order may bind some. -/
def reframe (builder : Builder) (window unionWindow : Window) (order union : List Value) :
    Builder :=
  { builder with
    query := { builder.query with window, unionWindow }
    bindings := { builder.bindings with order, union } }

theorem reframe_self (builder : Builder) :
    builder.reframe builder.query.window builder.query.unionWindow builder.bindings.order
      builder.bindings.union = builder := by
  obtain ⟨dialect, ⟨_, _, _, _, _, _, _, _, _, _, _, _⟩, ⟨_, _, _, _, _, _⟩, fault⟩ := builder
  rfl

/-- The builder is `bare` apart from its windows and what is bound to their orders. The window of a
union is empty without branches, and without an order in it nothing is bound beside the branches. -/
def Frames (builder bare : Builder) : Prop :=
  ∃ window unionWindow order union,
    builder = bare.reframe window unionWindow order union ∧
      (bare.query.unions = [] → unionWindow = {}) ∧
      (unionWindow.orders = [] → union = bare.bindings.union) ∧
      bare.query.unionWindow = {}

namespace Frames

variable {builder bare : Builder}

theorem refl (builder : Builder) (empty : builder.query.unionWindow = {}) :
    builder.Frames builder :=
  ⟨_, _, _, _, builder.reframe_self.symm, fun _ => empty, fun _ => rfl, empty⟩

theorem dialect (frames : builder.Frames bare) : builder.dialect = bare.dialect := by
  obtain ⟨_, _, _, _, rfl, -⟩ := frames
  rfl

theorem fault (frames : builder.Frames bare) : builder.fault = bare.fault := by
  obtain ⟨_, _, _, _, rfl, -⟩ := frames
  rfl

theorem fail (frames : builder.Frames bare) (fault : Fault) :
    (builder.fail fault).Frames (bare.fail fault) := by
  obtain ⟨_, _, _, _, rfl, single, unordered, plain⟩ := frames
  exact ⟨_, _, _, _, rfl, single, unordered, plain⟩

theorem absorb (frames : builder.Frames bare) (other : Builder) :
    (builder.absorb other).Frames (bare.absorb other) := by
  obtain ⟨_, _, _, _, rfl, single, unordered, plain⟩ := frames
  exact ⟨_, _, _, _, rfl, single, unordered, plain⟩

theorem checked {operator : String} {next nextBare : Builder} (frames : builder.Frames bare)
    (taken : next.Frames nextBare) :
    (builder.checked operator next).Frames (bare.checked operator nextBare) := by
  unfold Builder.checked
  rw [frames.dialect]
  split
  · exact taken
  · exact frames.fail _

theorem addWhere (frames : builder.Frames bare) (values : List Value) (connective : Connective)
    (predicate : Predicate) :
    ((builder.bind .filter values).addWhere connective predicate).Frames
      ((bare.bind .filter values).addWhere connective predicate) := by
  obtain ⟨_, _, _, _, rfl, single, unordered, plain⟩ := frames
  exact ⟨_, _, _, _, rfl, single, unordered, plain⟩

theorem addTest (frames : builder.Frames bare) (connective : Connective) (predicate : Predicate) :
    (builder.addWhere connective predicate).Frames (bare.addWhere connective predicate) := by
  obtain ⟨_, _, _, _, rfl, single, unordered, plain⟩ := frames
  exact ⟨_, _, _, _, rfl, single, unordered, plain⟩

theorem addHaving (frames : builder.Frames bare) (values : List Value) (connective : Connective)
    (predicate : Predicate) :
    ((builder.bind .having values).addHaving connective predicate).Frames
      ((bare.bind .having values).addHaving connective predicate) := by
  obtain ⟨_, _, _, _, rfl, single, unordered, plain⟩ := frames
  exact ⟨_, _, _, _, rfl, single, unordered, plain⟩

theorem whereCompare (frames : builder.Frames bare) (connective : Connective) (column : Identifier)
    (operator : String) (operand : Operand) :
    (builder.whereCompare connective column operator operand).Frames
      (bare.whereCompare connective column operator operand) := by
  unfold Builder.whereCompare
  split
  · split
    · exact frames.addTest _ _
    · split
      · exact frames.addTest _ _
      · exact frames.fail _
  · exact frames.checked (frames.addWhere _ _ _)

theorem whereGroupOf (frames : builder.Frames bare) (connective : Connective) (nested : Builder) :
    (builder.whereGroupOf connective nested).Frames (bare.whereGroupOf connective nested) := by
  unfold Builder.whereGroupOf
  dsimp only
  split
  · exact frames.absorb nested
  · exact (frames.absorb nested).addWhere _ _ _

/-- The builder that a group is built on is the same with or without windows. -/
theorem whereGroup (frames : builder.Frames bare) (connective : Connective)
    (build : Builder → Builder) :
    (builder.whereGroup connective build).Frames (bare.whereGroup connective build) := by
  have nested : (builder.fresh.change fun query => { query with table := builder.query.table }) =
      bare.fresh.change fun query => { query with table := bare.query.table } := by
    obtain ⟨_, _, _, _, rfl, -⟩ := frames
    rfl
  unfold Builder.whereGroup
  rw [nested]
  exact frames.whereGroupOf connective _

theorem join (frames : builder.Frames bare) (join : Join) :
    (builder.join join).Frames (bare.join join) := by
  unfold Builder.join
  rw [frames.dialect]
  split
  · exact frames.fail _
  · obtain ⟨_, _, _, _, rfl, single, unordered, plain⟩ := frames
    exact ⟨_, _, _, _, rfl, single, unordered, plain⟩

/-- Behind a branch there is a union window, which `bare` leaves empty. -/
theorem union (frames : builder.Frames bare) (keepsDuplicates : Bool) (other : Builder) :
    (builder.union keepsDuplicates other).Frames (bare.union keepsDuplicates other) := by
  obtain ⟨_, _, _, _, rfl, -, unordered, plain⟩ := frames
  refine ⟨_, _, _, _, rfl, fun none => ?_, fun none => ?_, plain⟩
  · exact absurd none (by simp [Builder.union, Builder.change])
  · exact congrArg (· ++ other.bindings.flatten) (unordered none)

theorem setBindings (frames : builder.Frames bare) (values : List Value) (bucket : String) :
    (builder.setBindings values bucket).Frames (bare.setBindings values bucket) := by
  unfold Builder.setBindings
  obtain ⟨_, _, _, _, rfl, single, unordered, plain⟩ := frames
  cases Bucket.ofName bucket with
  | error fault => exact ⟨_, _, _, _, rfl, single, unordered, plain⟩
  | ok bucket =>
      cases bucket with
      | union => exact ⟨_, _, _, _, rfl, single, fun _ => rfl, plain⟩
      | _ => exact ⟨_, _, _, _, rfl, single, unordered, plain⟩

theorem addBinding (frames : builder.Frames bare) (value : Value) (bucket : String) :
    (builder.addBinding value bucket).Frames (bare.addBinding value bucket) := by
  unfold Builder.addBinding
  obtain ⟨_, _, _, _, rfl, single, unordered, plain⟩ := frames
  cases Bucket.ofName bucket with
  | error fault => exact ⟨_, _, _, _, rfl, single, unordered, plain⟩
  | ok bucket =>
      cases bucket with
      | union =>
          exact ⟨_, _, _, _, rfl, single,
            fun none => congrArg (· ++ [value]) (unordered none), plain⟩
      | _ => exact ⟨_, _, _, _, rfl, single, unordered, plain⟩

theorem mergeBindings (frames : builder.Frames bare) (other : Builder) :
    (builder.mergeBindings other).Frames (bare.mergeBindings other) := by
  obtain ⟨_, _, _, _, rfl, single, unordered, plain⟩ := frames
  exact ⟨_, _, _, _, rfl, single,
    fun none => congrArg (· ++ other.bindings.union) (unordered none), plain⟩

theorem applyScope (frames : builder.Frames bare) (scope scopeBare : Builder → Builder)
    (inner : (scope builder).Frames (scopeBare bare)) :
    (builder.applyScope scope).Frames (bare.applyScope scopeBare) := by
  have before : builder.query.wheres = bare.query.wheres := by
    obtain ⟨_, _, _, _, rfl, -⟩ := frames
    rfl
  unfold Builder.applyScope
  rw [before]
  dsimp only
  split
  · exact inner
  · obtain ⟨_, _, _, _, same, single, unordered, plain⟩ := inner
    rw [same]
    exact ⟨_, _, _, _, rfl, single, unordered, plain⟩

/-- A call for a window is one that `bare` does without. Where there are no branches it goes to the
window of the query itself. -/
theorem changeWindow (frames : builder.Frames bare) (f : Window → Window)
    (unordered : (f builder.query.unionWindow).orders = [] →
      builder.query.unionWindow.orders = []) :
    (builder.changeWindow f).Frames bare := by
  obtain ⟨window, unionWindow, order, union, rfl, single, bound, plain⟩ := frames
  unfold Builder.changeWindow Builder.change
  cases branches : bare.query.unions with
  | nil =>
      have none : (bare.reframe window unionWindow order union).query.unions.isEmpty = true := by
        simp [reframe, branches]
      refine ⟨f window, unionWindow, order, union, ?_, single, bound, plain⟩
      simp only [none, if_true]
      rfl
  | cons first rest =>
      have some : (bare.reframe window unionWindow order union).query.unions.isEmpty = false := by
        simp [reframe, branches]
      refine ⟨window, f unionWindow, order, union, ?_, ?_,
        fun none => bound (unordered none), plain⟩
      · simp only [some]
        rfl
      · rw [branches]
        nofun

theorem orderByRaw (frames : builder.Frames bare) (sql : String) (values : List Value) :
    (builder.orderByRaw sql values).Frames bare := by
  obtain ⟨window, unionWindow, order, union, rfl, single, bound, plain⟩ := frames
  unfold Builder.orderByRaw Builder.addOrder Builder.changeWindow Builder.change
  cases branches : bare.query.unions with
  | nil =>
      have none : (bare.reframe window unionWindow order union).query.unions.isEmpty = true := by
        simp [reframe, branches]
      simp only [none, if_true]
      exact ⟨_, unionWindow, order ++ values, union, by simp [Builder.bind, none]; rfl, single,
        bound, plain⟩
  | cons first rest =>
      have some : (bare.reframe window unionWindow order union).query.unions.isEmpty = false := by
        simp [reframe, branches]
      simp only [some]
      refine ⟨window, _, order, union ++ values, by simp [Builder.bind, some]; rfl, ?_, ?_,
        plain⟩
      · rw [branches]
        intro none
        simp at none
      · intro none
        simp at none

theorem orderBy (frames : builder.Frames bare) (column : Identifier) (direction : Direction) :
    (builder.orderBy column direction).Frames bare :=
  frames.changeWindow
    (fun window => { window with orders := window.orders ++ [.column column direction] })
    fun none => absurd none (by simp)

theorem limit {count : Int} (frames : builder.Frames bare)
    (accepted : (builder.limit count).fault = none) : (builder.limit count).Frames bare := by
  unfold Builder.limit at accepted ⊢
  split at accepted
  · exact absurd accepted (by simp [Builder.fail])
  · rename_i natural
    rw [if_neg natural]
    exact frames.changeWindow _ id

theorem offset (frames : builder.Frames bare) (count : Int) : (builder.offset count).Frames bare :=
  frames.changeWindow (fun window => { window with offset := some count.toNat }) id

theorem forPage (frames : builder.Frames bare) (page perPage : Nat) :
    (builder.forPage page perPage).Frames bare :=
  frames.changeWindow
    (fun window => { window with
      offset := some (Number.saturatingMul (page - 1) perPage), limit := some perPage }) id

/-! Every step keeps the frame, as far as it is not refused -/

mutual

theorem step : ∀ (step : Step) {builder bare : Builder}, builder.Frames bare →
    (builder.step step).fault = none → (builder.step step).Frames (bare.run step.bare)
  | .table _, _, _, ⟨_, _, _, _, rfl, single, unordered, plain⟩, _
  | .select _, _, _, ⟨_, _, _, _, rfl, single, unordered, plain⟩, _
  | .addSelect _, _, _, ⟨_, _, _, _, rfl, single, unordered, plain⟩, _
  | .selectRaw _ _, _, _, ⟨_, _, _, _, rfl, single, unordered, plain⟩, _
  | .selectQuery _ _, _, _, ⟨_, _, _, _, rfl, single, unordered, plain⟩, _
  | .distinct, _, _, ⟨_, _, _, _, rfl, single, unordered, plain⟩, _
  | .groupBy _, _, _, ⟨_, _, _, _, rfl, single, unordered, plain⟩, _
  | .lock _, _, _, ⟨_, _, _, _, rfl, single, unordered, plain⟩, _
  | .whereIn _ _ _ _, _, _, ⟨_, _, _, _, rfl, single, unordered, plain⟩, _
  | .whereInQuery _ _ _ _, _, _, ⟨_, _, _, _, rfl, single, unordered, plain⟩, _
  | .whereNull _ _ _, _, _, ⟨_, _, _, _, rfl, single, unordered, plain⟩, _
  | .whereBetween _ _ _ _ _, _, _, ⟨_, _, _, _, rfl, single, unordered, plain⟩, _
  | .whereExists _ _ _, _, _, ⟨_, _, _, _, rfl, single, unordered, plain⟩, _
  | .whereRaw _ _ _, _, _, ⟨_, _, _, _, rfl, single, unordered, plain⟩, _
  | .havingRaw _ _ _, _, _, ⟨_, _, _, _, rfl, single, unordered, plain⟩, _
  | .mergeWheres _ _, _, _, ⟨_, _, _, _, rfl, single, unordered, plain⟩, _ =>
      ⟨_, _, _, _, rfl, single, unordered, plain⟩
  | .join join, _, _, frames, _ => frames.join join
  | .whereCompare connective column operator operand, _, _, frames, _ =>
      frames.whereCompare connective column operator operand
  | .whereAll conditions, builder, bare, frames, _ =>
      show (builder.whereAll conditions).Frames (bare.whereAll conditions) from
        frames.whereGroup _ _
  | .whereRecord record, builder, bare, frames, _ =>
      show (builder.whereAll _).Frames (bare.whereAll _) from frames.whereGroup _ _
  | .whereGroup connective steps, _, _, frames, _ =>
      frames.whereGroup connective fun nested => nested.run steps
  | .whereGroupOf connective steps, builder, bare, frames, _ => by
      change (builder.whereGroupOf connective (builder.fresh.run steps)).Frames
        (bare.whereGroupOf connective (bare.fresh.run steps))
      rw [Builder.fresh, frames.dialect]
      exact frames.whereGroupOf connective _
  | .whereQuery connective column operator steps, builder, bare, frames, _ => by
      change (builder.whereQuery connective column operator (builder.fresh.run steps)).Frames
        (bare.whereQuery connective column operator (bare.fresh.run steps))
      rw [Builder.fresh, frames.dialect]
      exact frames.checked ((frames.absorb _).addWhere _ _ _)
  | .whereColumns _ _ _ _, _, _, frames, _ => frames.checked (frames.addTest _ _)
  | .whereDate connective part column operator operand, builder, bare, frames, _ => by
      change (builder.whereDate connective part column operator operand).Frames
        (bare.whereDate connective part column operator operand)
      unfold whereDate
      rw [frames.dialect]
      exact frames.checked (frames.addWhere _ _ _)
  | .applyScope steps, _, _, frames, accepted =>
      frames.applyScope (fun inner => inner.run steps) (fun inner => inner.run (bareSteps steps))
        (run steps frames (fault_applyScope accepted))
  | .having _ _ _ _, _, _, frames, _ => frames.checked (frames.addHaving _ _ _)
  | .orderBy column direction, _, _, frames, _ => frames.orderBy column direction
  | .orderByRaw sql values, _, _, frames, _ => frames.orderByRaw sql values
  | .limit _, _, _, frames, accepted => frames.limit accepted
  | .offset count, _, _, frames, _ => frames.offset count
  | .forPage page perPage, _, _, frames, _ => frames.forPage page perPage
  | .union keepsDuplicates steps, builder, bare, frames, _ => by
      change (builder.union keepsDuplicates (builder.fresh.run steps)).Frames
        (bare.union keepsDuplicates (bare.fresh.run steps))
      rw [Builder.fresh, frames.dialect]
      exact frames.union keepsDuplicates _
  | .setBindings values bucket, _, _, frames, _ => frames.setBindings values bucket
  | .addBinding value bucket, _, _, frames, _ => frames.addBinding value bucket
  | .mergeBindings steps, builder, bare, frames, _ => by
      change (builder.mergeBindings (builder.fresh.run steps)).Frames
        (bare.mergeBindings (bare.fresh.run steps))
      rw [Builder.fresh, frames.dialect]
      exact frames.mergeBindings _

theorem run : ∀ (steps : List Step) {builder bare : Builder}, builder.Frames bare →
    (builder.run steps).fault = none → (builder.run steps).Frames (bare.run (bareSteps steps))
  | [], _, _, frames, _ => frames
  | first :: rest, builder, bare, frames, accepted => by
      rw [bareSteps, run_append]
      exact run rest (step first frames (fault_run rest accepted)) accepted

end

end Frames

end Builder

end SqlToolkit
