import SqlToolkit.Proofs.Chains.Refusals
/-!
The comparison operators that a query holds, at any depth, and the chains that hold none but those
that the vendor knows. A chain that takes over predicates as they are may hold any operator, so it
is left out.
-/

namespace SqlToolkit

def Join.operators (joins : List Join) : List String :=
  joins.flatMap fun join => join.conditions.map JoinCondition.operator

mutual

/-- The operators of a query in the order in which a select statement writes them. -/
def Query.operators : Query → List String
  | ⟨_, _, _, joins, wheres, _, havings, _, unions, _, _, _⟩ =>
      Join.operators joins ++ Clause.operators wheres ++ Clause.operators havings ++
        Branch.operators unions

def Branch.operators : List Branch → List String
  | [] => []
  | ⟨query, _⟩ :: rest => query.operators ++ Branch.operators rest

def Clause.operators : List Clause → List String
  | [] => []
  | ⟨_, predicate⟩ :: rest => predicate.operators ++ Clause.operators rest

def Predicate.operators : Predicate → List String
  | .compare _ operator _ => [operator]
  | .compareColumns _ operator _ => [operator]
  | .group members => Clause.operators members
  | .compareQuery _ operator query => operator :: query.operators
  | .inList _ _ _ => []
  | .inQuery _ _ query => query.operators
  | .isNull _ _ => []
  | .between _ _ _ _ => []
  | .exists _ query => query.operators
  | .compareDate _ _ operator _ => [operator]
  | .raw _ => []

end

theorem Clause.operators_append (first second : List Clause) :
    Clause.operators (first ++ second) = Clause.operators first ++ Clause.operators second := by
  induction first with
  | nil => rfl
  | cons clause rest ih =>
      obtain ⟨connective, predicate⟩ := clause
      rw [List.cons_append, Clause.operators, ih, Clause.operators, List.append_assoc]

theorem Branch.operators_append (first second : List Branch) :
    Branch.operators (first ++ second) = Branch.operators first ++ Branch.operators second := by
  induction first with
  | nil => rfl
  | cons branch rest ih =>
      obtain ⟨query, keepsDuplicates⟩ := branch
      rw [List.cons_append, Branch.operators, ih, Branch.operators, List.append_assoc]

/-! Operators that a vendor knows -/

def Vendor.KnowsAll (vendor : Vendor) (operators : List String) : Prop :=
  ∀ operator ∈ operators, vendor.knowsOperator operator = true

namespace Vendor.KnowsAll

variable {vendor : Vendor}

theorem nil : vendor.KnowsAll [] :=
  nofun

theorem singleton {operator : String} (known : vendor.operatorFault operator = none) :
    vendor.KnowsAll [operator] := by
  unfold operatorFault at known
  rintro _ (_ | ⟨_, ⟨⟩⟩)
  split at known
  · assumption
  · cases known

theorem append_iff {first second : List String} :
    vendor.KnowsAll (first ++ second) ↔ vendor.KnowsAll first ∧ vendor.KnowsAll second :=
  List.forall_mem_append

theorem append {first second : List String} (left : vendor.KnowsAll first)
    (right : vendor.KnowsAll second) : vendor.KnowsAll (first ++ second) :=
  append_iff.mpr ⟨left, right⟩

theorem join {join : Join} (sound : Builder.joinFault vendor join = none) :
    vendor.KnowsAll (Join.operators [join]) := by
  have conditions : ∀ {conditions : List JoinCondition},
      Builder.conditionsFault vendor conditions = none →
        vendor.KnowsAll (conditions.map JoinCondition.operator) := by
    intro conditions sound
    induction conditions with
    | nil => exact nil
    | cons first rest ih =>
        unfold Builder.conditionsFault at sound
        split at sound
        · cases sound
        · split at sound
          · rename_i known
            rintro operator (_ | ⟨_, member⟩)
            · exact known
            · exact ih sound operator member
          · cases sound
  unfold Builder.joinFault at sound
  split at sound
  · cases sound
  · rw [Join.operators, List.flatMap_singleton]
    exact conditions sound

end Vendor.KnowsAll

/-- The operators of a query are known, part by part. -/
structure Query.Known (vendor : Vendor) (query : Query) : Prop where
  joins : vendor.KnowsAll (Join.operators query.joins)
  wheres : vendor.KnowsAll (Clause.operators query.wheres)
  havings : vendor.KnowsAll (Clause.operators query.havings)
  unions : vendor.KnowsAll (Branch.operators query.unions)

namespace Query.Known

variable {vendor : Vendor} {query : Query}

theorem empty (table : Option Identifier) : Query.Known vendor { table } :=
  ⟨.nil, .nil, .nil, .nil⟩

theorem iff_knowsAll : query.Known vendor ↔ vendor.KnowsAll query.operators := by
  obtain ⟨_, _, _, joins, wheres, _, havings, _, unions, _, _, _⟩ := query
  rw [Query.operators, Vendor.KnowsAll.append_iff, Vendor.KnowsAll.append_iff,
    Vendor.KnowsAll.append_iff]
  exact ⟨fun known => ⟨⟨⟨known.joins, known.wheres⟩, known.havings⟩, known.unions⟩,
    fun ⟨⟨⟨joins, wheres⟩, havings⟩, unions⟩ => ⟨joins, wheres, havings, unions⟩⟩

end Query.Known

/-- An update or a delete writes the joins and the predicates of a query. -/
theorem Query.changed_operators_subset (query : Query) :
    Join.operators query.joins ++ Clause.operators query.wheres ⊆ query.operators := by
  obtain ⟨_, _, _, joins, wheres, _, havings, _, unions, _, _, _⟩ := query
  intro operator member
  exact List.mem_append_left _ (List.mem_append_left _ member)

/-! Chains without predicates that are taken over -/

mutual

def Step.Unmerged : Step → Prop
  | .selectQuery steps _ => UnmergedSteps steps
  | .whereGroup _ steps => UnmergedSteps steps
  | .whereGroupOf _ steps => UnmergedSteps steps
  | .whereQuery _ _ _ steps => UnmergedSteps steps
  | .whereInQuery _ _ _ steps => UnmergedSteps steps
  | .whereExists _ _ steps => UnmergedSteps steps
  | .applyScope steps => UnmergedSteps steps
  | .union _ steps => UnmergedSteps steps
  | .mergeBindings steps => UnmergedSteps steps
  | .mergeWheres _ _ => False
  | _ => True

def UnmergedSteps : List Step → Prop
  | [] => True
  | first :: rest => first.Unmerged ∧ UnmergedSteps rest

end

end SqlToolkit
