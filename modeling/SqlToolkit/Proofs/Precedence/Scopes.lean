import SqlToolkit.Proofs.Draft.Changes
import SqlToolkit.Proofs.Draft.Simulation
import SqlToolkit.Proofs.Pages.Windows
import SqlToolkit.Proofs.Precedence.Chains
/-!
Scopes: what a scope adds behind other predicates becomes one group. The group is joined by AND to
the predicate in front of it, so it narrows what stands behind the last OR before the scope, and all
rows just if there is no OR.
-/

namespace SqlToolkit

namespace Builder

theorem groupFrom_append (wheres : List Clause) (first : Clause) (rest : List Clause) :
    groupFrom wheres.length (wheres ++ first :: rest) =
      wheres ++ [⟨first.connective, .group (first :: rest)⟩] := by
  rw [groupFrom, List.drop_left, List.take_left]

/-- What a scope appends becomes one group behind the predicates that were there. -/
theorem wheres_applyScope {builder : Builder} {scope : Builder → Builder} {first : Clause}
    {rest : List Clause} (nonempty : builder.query.wheres ≠ [])
    (appended : (scope builder).query.wheres = builder.query.wheres ++ first :: rest) :
    (builder.applyScope scope).query.wheres =
      builder.query.wheres ++ [⟨first.connective, .group (first :: rest)⟩] := by
  have some : builder.query.wheres.length ≠ 0 := by simpa using nonempty
  rw [applyScope, if_neg some]
  change groupFrom builder.query.wheres.length (scope builder).query.wheres = _
  rw [appended, groupFrom_append]

/-- Grouping moves no value. -/
theorem bindings_applyScope (builder : Builder) (scope : Builder → Builder) :
    (builder.applyScope scope).bindings = (scope builder).bindings := by
  unfold applyScope
  dsimp only
  split <;> rfl

end Builder

/-- Whether a predicate is, or is in, one of the first of its query. -/
def Place.isAmongFirst (count : Nat) : Place → Bool
  | filter (index :: _) => index < count
  | _ => true

section Grouped

variable {dialect : Dialect} {wheres added : List Clause}

/-- A group that is added narrows the whole list just if the list has no OR. -/
theorem Clause.narrowed_iff
    (populated : Clause.Populated (wheres ++ [⟨.and, .group added⟩])) :
    (∀ truth, Passes truth (Clause.signs dialect [] 0 (wheres ++ [⟨.and, .group added⟩])) ↔
      Passes truth (Clause.signs dialect [] 0 wheres) ∧
        Passes truth (Clause.signs dialect [wheres.length] 0 added)) ↔
      Conjoined (wheres.map Clause.connective) := by
  obtain ⟨-, group, -⟩ := Clause.populated_append.mp populated
  constructor
  · intro narrowed
    by_contra several
    -- Where the group fails and all before it holds, what is in front of the OR lets the row pass.
    let truth := Place.isAmongFirst wheres.length
    have passes : Passes truth (Clause.signs dialect [] 0 (wheres ++ [⟨.and, .group added⟩])) :=
      Clause.passes_unnarrowed populated several fun index more before => decide_eq_true before
    have refused : valueOf truth ((Predicate.group added).signs dialect [wheres.length]) =
        some false :=
      valueOf_signs_uniform _ _ group fun more => decide_eq_false (Nat.lt_irrefl wheres.length)
    have taken := ((narrowed truth).mp passes).2
    rw [← Clause.value_group group, refused] at taken
    simp at taken
  · intro joined truth
    rw [Clause.passes_narrowed populated joined, Clause.value_group group, List.nil_append,
      Nat.zero_add]

/-- Behind an OR, the group narrows the alternative that it was added to. -/
theorem Clause.narrowed_split {front back : List Clause} {next : Clause}
    {truth : Place → Bool}
    (populated : Clause.Populated (front ++ next :: back ++ [⟨.and, .group added⟩]))
    (nonempty : front ≠ []) (alternative : next.connective = .or)
    (last : ∀ clause ∈ back, clause.connective = .and) :
    Passes truth
        (Clause.signs dialect [] 0 (front ++ next :: back ++ [⟨.and, .group added⟩])) ↔
      Passes truth (Clause.signs dialect [] 0 front) ∨
        Passes truth (Clause.signs dialect [] front.length (next :: back)) ∧
          Passes truth (Clause.signs dialect [(front ++ next :: back).length] 0 added) := by
  obtain ⟨-, group, -⟩ := Clause.populated_append.mp populated
  have joined : Conjoined ((next :: back).map Clause.connective) := by
    simpa [Conjoined] using last
  rw [List.append_assoc, List.cons_append] at populated ⊢
  have behind : Clause.Populated ((next :: back) ++ [⟨.and, .group added⟩]) :=
    (Clause.populated_append.mp populated).2
  rw [Clause.passes_split populated nonempty alternative, ← List.cons_append,
    Clause.passes_narrowed behind joined, Clause.value_group group, List.nil_append, Nat.zero_add,
    List.length_append]

end Grouped

/-- What a scope appends with AND is joined to the last alternative of the predicates before it. It
narrows them all just if they have no OR. The values stay in the order of the predicates. -/
theorem scope_narrows_last_alternative (dialect : Dialect) (steps scope : List Step)
    (first : Clause) (rest : List Clause)
    (nonempty : (({ dialect } : Builder).run steps).query.wheres ≠ [])
    (appended : ((({ dialect } : Builder).run steps).run scope).query.wheres =
      (({ dialect } : Builder).run steps).query.wheres ++ first :: rest)
    (narrowing : first.connective = .and) :
    let before := ({ dialect } : Builder).run steps
    let wheres := before.query.wheres
    let chain := steps ++ [.applyScope scope]
    let after := ({ dialect } : Builder).run chain
    let signs := Clause.signs dialect [] 0 after.query.wheres
    let added := Clause.signs dialect [wheres.length] 0 (first :: rest)
    dialect.whereClause after.query.wheres = spellClause "WHERE" signs ∧
    (∀ front next back, wheres = front ++ next :: back → front ≠ [] → next.connective = .or →
      (∀ clause ∈ back, clause.connective = .and) → ∀ truth,
        (Passes truth signs ↔ Passes truth (Clause.signs dialect [] 0 front) ∨
          Passes truth (Clause.signs dialect [] front.length (next :: back)) ∧
            Passes truth added)) ∧
    ((∀ truth, Passes truth signs ↔
        Passes truth (Clause.signs dialect [] 0 wheres) ∧ Passes truth added) ↔
      Conjoined (wheres.map Clause.connective)) ∧
    after.bindings = (before.run scope).bindings ∧
    (FairSteps dialect chain → after.fault = none →
      (dialect.fill (dialect.whereClause after.query.wheres) after.bindings.filter =
          some (Draft.run dialect {} chain).whereClause ↔
        QueriesPositional dialect chain)) := by
  intro before wheres chain after signs added
  have stepped : after = before.applyScope fun inner => inner.run scope :=
    Builder.run_append steps [.applyScope scope] _
  have grouped : after.query.wheres = wheres ++ [⟨.and, .group (first :: rest)⟩] := by
    rw [stepped, ← narrowing]
    exact Builder.wheres_applyScope nonempty appended
  have populated : Clause.Populated (wheres ++ [⟨.and, .group (first :: rest)⟩]) := by
    rw [← grouped]
    exact Builder.Populated.run chain _ trivial
  refine ⟨whereClause_eq_spellClause _, ?split, ?whole, ?bindings, ?values⟩
  case split =>
    intro front next back parts begun alternative last truth
    rw [parts] at populated
    simp only [signs, added, grouped, parts]
    exact Clause.narrowed_split populated begun alternative last
  case whole =>
    simp only [signs, added, grouped]
    exact Clause.narrowed_iff populated
  case bindings =>
    rw [stepped]
    exact before.bindings_applyScope _
  case values =>
    intro fair accepted
    have follows : Follows dialect False (QueriesPositional dialect chain) after _ :=
      .chain fair (fun never => never.elim) accepted
    rw [follows.agrees.whereClause.fill_eq_some_iff, Draft.values_whereClause]
    exact follows.kept

def adminSteps : List Step :=
  [.table (.named "users"), .whereCompare .and (.named "role") "=" (.bound (.text "admin"))]

/-- A scope of two alternatives. -/
def adultScope : List Step :=
  [.whereCompare .and (.named "age") ">" (.bound (.integer 17)),
    .whereNull .or false (.named "age")]

theorem adult_scope_narrows_admins :
    let dialect := Vendor.postgres.dialect
    let after := ({ dialect } : Builder).run (adminSteps ++ [.applyScope adultScope])
    after.query.wheres.length = 2 ∧ after.bindings.filter = [.text "admin", .integer 17] ∧
    ∀ truth, Passes truth (Clause.signs dialect [] 0 after.query.wheres) ↔
      Passes truth (Clause.signs dialect [] 0
        [⟨.and, .compare (.named "role") "=" (.bound (.text "admin"))⟩]) ∧
      Passes truth (Clause.signs dialect [1] 0
        [⟨.and, .compare (.named "age") ">" (.bound (.integer 17))⟩,
          ⟨.or, .isNull false (.named "age")⟩]) := by
  have narrowed := scope_narrows_last_alternative Vendor.postgres.dialect adminSteps adultScope
    ⟨.and, .compare (.named "age") ">" (.bound (.integer 17))⟩
    [⟨.or, .isNull false (.named "age")⟩] (List.cons_ne_nil _ _) rfl rfl
  exact ⟨rfl, congrArg Bindings.filter narrowed.2.2.2.1, narrowed.2.2.1.mpr (by decide)⟩

def eitherSteps : List Step :=
  [.table (.named "users"), .whereCompare .and (.named "a") "=" (.bound (.integer 1)),
    .whereCompare .or (.named "b") "=" (.bound (.integer 2))]

/-- Behind an OR, a row passes that the scope does not admit. -/
theorem scope_passed_by_alternative :
    let dialect := Vendor.sqlite.dialect
    let scope : List Step := [.whereCompare .and (.named "c") "=" (.bound (.integer 3))]
    let after := ({ dialect } : Builder).run (eitherSteps ++ [.applyScope scope])
    let truth (place : Place) : Bool := place = .filter [0]
    dialect.whereClause after.query.wheres =
        "WHERE \"a\" = ? OR \"b\" = ? AND (\"c\" = ?)" ∧
      Passes truth (Clause.signs dialect [] 0 after.query.wheres) ∧
      ¬Passes truth (Clause.signs dialect [2] 0
        [⟨.and, .compare (.named "c") "=" (.bound (.integer 3))⟩]) := by
  decide +kernel

end SqlToolkit
