import SqlToolkit.Proofs.Draft.Changes
import SqlToolkit.Proofs.Draft.Simulation
/-!
Updates and deletes: the values that are sent with them land in place just if every query within a
predicate brings no values beyond those of its own statement.
-/

namespace SqlToolkit

namespace Follows

variable {dialect : Dialect} {exact kept : Prop} {builder : Builder} {draft : Draft}

theorem joins_isEmpty (follows : Follows dialect exact kept builder draft) :
    builder.query.joins.isEmpty = true ↔ draft.joins = [] := by
  rw [List.isEmpty_iff, follows.agrees.joins]

theorem updateBindings_iff (follows : Follows dialect exact kept builder draft) (record : Record)
    (single : dialect.vendor = .sqlite → draft.joins = []) :
    dialect.updateBindings builder.query builder.bindings record =
      (draft.update dialect record).values ↔ kept := by
  have filter := follows.kept
  rw [Draft.values_update draft record single]
  simp only [Dialect.updateBindings, follows.joins_isEmpty, follows.join, follows.order]
  cases dialect.vendor <;> simp [filter]

theorem deleteBindings_iff (follows : Follows dialect exact kept builder draft)
    (single : dialect.vendor = .sqlite → draft.joins = []) :
    dialect.deleteBindings builder.query builder.bindings =
      (draft.delete dialect).values ↔ kept := by
  have filter := follows.kept
  rw [Draft.values_delete draft single]
  simp only [Dialect.deleteBindings, follows.joins_isEmpty, follows.join, follows.order]
  simp [filter]

end Follows

theorem change_values_in_place_iff (dialect : Dialect) (steps : List Step) (record : Record)
    (fair : FairSteps dialect steps) (recordFair : ∀ entry ∈ record.entries, entry.2.Fair dialect)
    (accepted : (({ dialect } : Builder).run steps).fault = none) :
    let builder := ({ dialect } : Builder).run steps
    let draft := Draft.run dialect {} steps
    (∀ sql, dialect.update builder.query record = .ok sql →
      (dialect.fill sql (dialect.updateBindings builder.query builder.bindings record) =
        some (draft.update dialect record) ↔ QueriesPositional dialect steps)) ∧
    (∀ sql, dialect.delete builder.query = .ok sql →
      (dialect.fill sql (dialect.deleteBindings builder.query builder.bindings) =
        some (draft.delete dialect) ↔ QueriesPositional dialect steps)) ∧
    ∀ projection having union : List Value,
      let others := { builder.bindings with projection, having, union }
      dialect.updateBindings builder.query others record =
        dialect.updateBindings builder.query builder.bindings record ∧
      dialect.deleteBindings builder.query others =
        dialect.deleteBindings builder.query builder.bindings := by
  intro builder draft
  have follows : Follows dialect False (QueriesPositional dialect steps) builder draft :=
    .chain fair (fun never => never.elim) accepted
  refine ⟨?update, ?delete, fun _ _ _ => ⟨rfl, rfl⟩⟩
  case update =>
    intro sql compiled
    obtain ⟨spelled, single⟩ := follows.agrees.update recordFair compiled
    rw [spelled.fill_eq_some_iff]
    exact follows.updateBindings_iff record single
  case delete =>
    intro sql compiled
    obtain ⟨spelled, single⟩ := follows.agrees.delete compiled
    rw [spelled.fill_eq_some_iff]
    exact follows.deleteBindings_iff single

def rankedSteps : List Step :=
  [.table (.named "users"), .whereInQuery .and true (.named "id")
    [.table (.named "banned"), .select [.named "user_id"],
      .whereCompare .and (.named "reason") "=" (.bound (.text "spam"))],
    .orderByRaw "rank = ?" [.integer 7]]

theorem ranked_change_values_in_place :
    let builder := ({ dialect := Vendor.mysql.dialect } : Builder).run rankedSteps
    let record : Record := ⟨[("active", .bound (.integer 1))]⟩
    ∃ sql, Vendor.mysql.dialect.update builder.query record = .ok sql ∧
      Vendor.mysql.dialect.fill sql
        (Vendor.mysql.dialect.updateBindings builder.query builder.bindings record) =
          some ((Draft.run Vendor.mysql.dialect {} rankedSteps).update Vendor.mysql.dialect
            record) := by
  have placed := change_values_in_place_iff Vendor.mysql.dialect rankedSteps
    ⟨[("active", .bound (.integer 1))]⟩ ?fair ?recordFair ?accepted
  · refine ⟨_, rfl, (placed.1 _ rfl).mpr ⟨trivial, ?_, trivial, trivial⟩⟩
    refine .of_orderly ?_ ⟨trivial, rfl, trivial, trivial⟩ rfl
    simp [FairSteps, Step.Fair, Identifier.Fair, Operand.Fair]
  case fair =>
    simp only [rankedSteps, FairSteps, Step.Fair, Identifier.Fair, Operand.Fair,
      List.mem_singleton, forall_eq, and_true, true_and]
    decide
  case recordFair => simp [Operand.Fair]
  case accepted => rfl

/-- A query in a predicate whose select list is replaced after it took a value. -/
def staleSteps : List Step :=
  [.table (.named "users"), .whereInQuery .and false (.named "id")
    [.table (.named "votes"), .selectRaw "? AS one" [.integer 1], .select [.named "user_id"]]]

/-- The value of the select list that is gone is still sent, and no marker is there to take it. -/
theorem stale_value_in_change :
    let dialect := Vendor.sqlite.dialect
    let builder := ({ dialect } : Builder).run staleSteps
    let record : Record := ⟨[("active", .bound (.integer 1))]⟩
    FairSteps dialect staleSteps ∧ builder.fault = none ∧
      (∃ sql, dialect.update builder.query record = .ok sql ∧
        dialect.fill sql (dialect.updateBindings builder.query builder.bindings record) = none) ∧
      ∃ sql, dialect.delete builder.query = .ok sql ∧
        dialect.fill sql (dialect.deleteBindings builder.query builder.bindings) = none := by
  refine ⟨?fair, rfl, ⟨_, rfl, by decide +kernel⟩, ⟨_, rfl, by decide +kernel⟩⟩
  simp only [staleSteps, FairSteps, Step.Fair, Identifier.Fair, List.mem_singleton, forall_eq,
    and_true, true_and]
  decide

end SqlToolkit
