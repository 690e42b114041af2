import SqlToolkit.Proofs.Draft.Simulation
/-!
Select statements: the values of a builder, put from left to right into the markers of its
statement, land where the calls of the builder gave them.
-/

namespace SqlToolkit

theorem select_values_in_place (dialect : Dialect) (steps : List Step)
    (fair : FairSteps dialect steps) (orderly : OrderlySteps dialect {} steps)
    (accepted : (({ dialect } : Builder).run steps).fault = none) :
    ∃ statement, (({ dialect } : Builder).run steps).statement = .ok statement ∧
      dialect.fill statement.sql statement.bindings =
        some ((Draft.run dialect {} steps).select dialect) := by
  have positional := Positional.of_orderly fair orderly accepted
  have follows : Follows dialect False _ _ _ := .chain fair (fun never => never.elim) accepted
  have speaks := follows.speaks
  unfold Positional at positional
  generalize ({ dialect } : Builder).run steps = builder at accepted speaks positional ⊢
  have sql : builder.sql = .ok (dialect.select builder.query) := by
    rw [Builder.sql, Builder.sound, accepted, speaks]
    rfl
  refine ⟨⟨dialect.select builder.query, builder.bindings.flatten⟩, ?_, positional⟩
  rw [Builder.statement, sql]
  rfl

/-- Values within a fragment, a nested query, a group, and a union with an order of its own; a name
and a literal that hold markers of their own. -/
def nestedSteps : List Step :=
  [.table (.named "users as ?"), .selectRaw "coalesce(nick, '?', ?)" [.text "none"],
    .whereGroup .and [.whereCompare .and (.named "age") ">" (.bound (.integer 18)),
      .whereInQuery .or true (.named "id") [.table (.named "banned"), .select [.named "user_id"],
        .whereBetween .and false (.named "since") (.bound (.integer 1)) (.verbatim "now()")]],
    .union true [.table (.named "guests"), .whereCompare .and (.named "host") "=" (.bound .null)],
    .orderByRaw "rank = ?" [.integer 7]]

theorem nested_select_values_in_place :
    ∃ statement, (({ dialect := Vendor.mysql.dialect } : Builder).run nestedSteps).statement =
        .ok statement ∧
      Vendor.mysql.dialect.fill statement.sql statement.bindings =
        some ((Draft.run Vendor.mysql.dialect {} nestedSteps).select Vendor.mysql.dialect) := by
  refine select_values_in_place Vendor.mysql.dialect nestedSteps ?fair ?orderly ?accepted
  case fair =>
    simp only [nestedSteps, FairSteps, Step.Fair, Identifier.Fair, Operand.Fair, List.mem_singleton,
      forall_eq, and_true, true_and]
    decide
  case orderly =>
    exact ⟨trivial, trivial, ⟨trivial, ⟨trivial, rfl, trivial, trivial⟩, trivial⟩,
      ⟨rfl, trivial, trivial, trivial⟩, trivial, trivial⟩
  case accepted => rfl

end SqlToolkit
