import SqlToolkit.Proofs.Draft.Simulation
/-!
Unions: branches and orders that are added in any order. The values of the branches and those of the
order of the whole union share a bucket, in the order of the calls; the text has all the branches in
front of that order. So they land in place where no branch with values comes behind such an order
with values.
-/

namespace SqlToolkit

/-- A call that adds a branch to a union, or an item to the order of a query or a union. -/
inductive UnionCall where
  | branch (keepsDuplicates : Bool) (other : Builder)
  | orderBy (column : Identifier) (direction : Direction)
  | orderByRaw (sql : String) (values : List Value)

namespace UnionCall

def isBranch : UnionCall → Bool
  | branch _ _ => true
  | orderBy _ _ | orderByRaw _ _ => false

/-- The values of the branch that a call adds. -/
def carried : UnionCall → List Value
  | branch _ other => other.bindings.flatten
  | orderBy _ _ | orderByRaw _ _ => []

/-- The values of the item of order that a call adds. -/
def ordering : UnionCall → List Value
  | orderByRaw _ values => values
  | branch _ _ | orderBy _ _ => []

def values (call : UnionCall) : List Value :=
  call.carried ++ call.ordering

/-- A branch brings no fault, and as many values as its text has markers. -/
def Fair (dialect : Dialect) : UnionCall → Prop
  | branch _ other =>
      other.fault = none ∧ dialect.Supplied (dialect.select other.query) other.bindings.flatten
  | orderBy column _ => column.Fair dialect
  | orderByRaw sql values => dialect.Supplied sql values

/-- The calls in front of the first branch. -/
def ahead (calls : List UnionCall) : List UnionCall :=
  calls.takeWhile fun call => !call.isBranch

/-- The first branch and the calls behind it. -/
def behind (calls : List UnionCall) : List UnionCall :=
  calls.dropWhile fun call => !call.isBranch

/-- No branch with values comes behind an item of order with values. -/
def BranchesFirst (calls : List UnionCall) : Prop :=
  calls.Pairwise fun first second => first.ordering = [] ∨ second.carried = []

variable {calls : List UnionCall}

theorem BranchesFirst.values_eq (first : BranchesFirst calls) :
    calls.flatMap values = calls.flatMap carried ++ calls.flatMap ordering := by
  induction calls with
  | nil => rfl
  | cons call rest ih =>
      obtain ⟨apart, later⟩ := List.pairwise_cons.mp first
      have swap : call.ordering ++ rest.flatMap carried = rest.flatMap carried ++ call.ordering := by
        by_cases none : call.ordering = []
        · simp [none]
        · have bare : rest.flatMap carried = [] :=
            List.flatMap_eq_nil_iff.mpr fun other member => (apart other member).resolve_left none
          simp [bare]
      simp only [List.flatMap_cons, ih later, values, List.append_assoc]
      rw [← List.append_assoc call.ordering, swap, List.append_assoc]

/-- Where all values differ, the order of the calls is the order of the text in no other case. -/
theorem BranchesFirst.of_values_eq (distinct : (calls.flatMap values).Nodup)
    (same : calls.flatMap values = calls.flatMap carried ++ calls.flatMap ordering) :
    BranchesFirst calls := by
  induction calls with
  | nil => exact .nil
  | cons call rest ih =>
      simp only [List.flatMap_cons, values, List.append_assoc, List.append_cancel_left_eq]
        at same distinct
      have behind := (List.nodup_append.mp distinct).2.1
      -- The first value of the item stands in front of every branch only if there is none.
      have apart : call.ordering = [] ∨ rest.flatMap carried = [] := by
        cases ordered : call.ordering with
        | nil => exact .inl rfl
        | cons value more =>
            cases others : rest.flatMap carried with
            | nil => exact .inr rfl
            | cons other remaining =>
                rw [same, ordered, others] at behind
                rw [ordered, others] at same
                cases (List.cons.inj same).1
                simp at behind
      have inner : rest.flatMap values = rest.flatMap carried ++ rest.flatMap ordering := by
        rcases apart with none | none
        · simpa only [none, List.nil_append] using same
        · simpa only [none, List.nil_append, List.append_cancel_left_eq] using same
      refine List.pairwise_cons.mpr ⟨fun other member => ?_,
        ih (List.nodup_append.mp behind).2.1 inner⟩
      exact apart.imp_right fun none => List.flatMap_eq_nil_iff.mp none other member

/-- Steps whose own values land in place are a fair branch. -/
theorem fair_chain {dialect : Dialect} {keepsDuplicates : Bool} {steps : List Step}
    (fair : FairSteps dialect steps) (accepted : (({ dialect } : Builder).run steps).fault = none)
    (positional : Positional dialect steps) :
    (branch keepsDuplicates (({ dialect } : Builder).run steps)).Fair dialect := by
  have follows : Follows dialect False _ _ _ := .chain fair False.elim accepted
  have supplied := follows.agrees.select.supplied
  rw [← (follows.fill_iff _).mp positional] at supplied
  exact ⟨accepted, supplied⟩

end UnionCall

/-! The calls on a builder and on a draft -/

def Builder.unite (builder : Builder) : UnionCall → Builder
  | .branch keepsDuplicates other => builder.union keepsDuplicates other
  | .orderBy column direction => builder.orderBy column direction
  | .orderByRaw sql values => builder.orderByRaw sql values

def Builder.uniteAll (builder : Builder) (calls : List UnionCall) : Builder :=
  calls.foldl Builder.unite builder

def Draft.unite (dialect : Dialect) (draft : Draft) : UnionCall → Draft
  | .branch keepsDuplicates other =>
      draft.addBranch dialect keepsDuplicates
        (dialect.supply (dialect.select other.query) other.bindings.flatten)
  | .orderBy column direction =>
      draft.addOrder (Filled.ofText (dialect.columnRef column ++ " " ++ direction.text))
  | .orderByRaw sql values => draft.addOrder (dialect.supply sql values)

def Draft.uniteAll (dialect : Dialect) (draft : Draft) (calls : List UnionCall) : Draft :=
  calls.foldl (Draft.unite dialect) draft

/-- The values of the buckets in front of the order. -/
def Bindings.front (bindings : Bindings) : List Value :=
  bindings.projection ++ bindings.join ++ bindings.filter ++ bindings.having

/-- The values of the parts of the text in front of the order. -/
def Draft.frontValues (draft : Draft) : List Value :=
  draft.columnValues ++ draft.joinValues ++ draft.whereValues ++ draft.havingValues

section

variable {dialect : Dialect} {builder : Builder} {draft : Draft} {call : UnionCall}
  {calls : List UnionCall} {exact kept : Prop}

namespace Builder

theorem unite_fault (builder : Builder) (fair : call.Fair dialect) :
    (builder.unite call).fault = builder.fault := by
  cases call with
  | branch keepsDuplicates other =>
      show builder.fault.or other.fault = builder.fault
      rw [fair.1, Option.or_none]
  | orderBy column direction => rfl
  | orderByRaw sql values => rfl

theorem unite_front (builder : Builder) (call : UnionCall) :
    (builder.unite call).bindings.front = builder.bindings.front := by
  cases call with
  | branch keepsDuplicates other => rfl
  | orderBy column direction => rfl
  | orderByRaw sql values =>
      simp only [unite, orderByRaw]
      split <;> rfl

/-- Without a branch, the values of an order are none of a union. -/
theorem unite_alone (single : builder.query.unions = []) (plain : call.isBranch = false) :
    (builder.unite call).query.unions = [] ∧
      (builder.unite call).bindings.union = builder.bindings.union := by
  cases call with
  | branch keepsDuplicates other => cases plain
  | orderBy column direction => simp [unite, orderBy, addOrder, changeWindow, change, single]
  | orderByRaw sql values =>
      simp [unite, orderByRaw, addOrder, changeWindow, change, bind, single, Bindings.extend,
        Bindings.set]

/-- With a branch, the values of every call go to the union. -/
theorem unite_united (builder : Builder) (call : UnionCall)
    (united : call.isBranch = true ∨ builder.query.unions ≠ []) :
    (builder.unite call).query.unions ≠ [] ∧
      (builder.unite call).bindings.union = builder.bindings.union ++ call.values := by
  cases call with
  | branch keepsDuplicates other =>
      refine ⟨List.concat_ne_nil _ _, ?_⟩
      show builder.bindings.union ++ other.bindings.flatten = _
      simp [UnionCall.values, UnionCall.carried, UnionCall.ordering]
  | orderBy column direction =>
      have some : builder.query.unions ≠ [] := united.resolve_left Bool.false_ne_true
      simp [unite, orderBy, addOrder, changeWindow, change, some, UnionCall.values,
        UnionCall.carried, UnionCall.ordering]
  | orderByRaw sql values =>
      have some : builder.query.unions ≠ [] := united.resolve_left Bool.false_ne_true
      simp [unite, orderByRaw, addOrder, changeWindow, change, bind, some, Bindings.extend,
        Bindings.set, Bindings.get, UnionCall.values, UnionCall.carried, UnionCall.ordering]

theorem uniteAll_fault (builder : Builder) (fair : ∀ call ∈ calls, call.Fair dialect) :
    (builder.uniteAll calls).fault = builder.fault := by
  induction calls generalizing builder with
  | nil => rfl
  | cons call rest ih =>
      obtain ⟨first, later⟩ := List.forall_mem_cons.mp fair
      exact (ih (builder.unite call) later).trans (unite_fault builder first)

theorem uniteAll_front (builder : Builder) (calls : List UnionCall) :
    (builder.uniteAll calls).bindings.front = builder.bindings.front := by
  induction calls generalizing builder with
  | nil => rfl
  | cons call rest ih => exact (ih (builder.unite call)).trans (unite_front builder call)

theorem uniteAll_united (united : builder.query.unions ≠ []) (calls : List UnionCall) :
    (builder.uniteAll calls).bindings.union =
      builder.bindings.union ++ calls.flatMap UnionCall.values := by
  induction calls generalizing builder with
  | nil => simp [uniteAll]
  | cons call rest ih =>
      obtain ⟨still, put⟩ := unite_united builder call (.inr united)
      rw [uniteAll, List.foldl_cons, ← uniteAll, ih still, put, List.flatMap_cons,
        List.append_assoc]

/-- The bucket of the union holds the values from the first branch on, in the order of the calls. -/
theorem uniteAll_union (single : builder.query.unions = []) (calls : List UnionCall) :
    (builder.uniteAll calls).bindings.union =
      builder.bindings.union ++ (UnionCall.behind calls).flatMap UnionCall.values := by
  induction calls generalizing builder with
  | nil => simp [uniteAll, UnionCall.behind]
  | cons call rest ih =>
      rw [uniteAll, List.foldl_cons, ← uniteAll, UnionCall.behind]
      -- The first branch ends the part in which orders are those of the query.
      cases kind : call.isBranch with
      | true =>
          obtain ⟨united, put⟩ := unite_united builder call (.inl kind)
          rw [uniteAll_united united, put, List.dropWhile_cons_of_neg (by simp [kind]),
            List.flatMap_cons, List.append_assoc]
      | false =>
          obtain ⟨still, kept⟩ := unite_alone single kind
          rw [ih still, kept, List.dropWhile_cons_of_pos (by simp [kind]), UnionCall.behind]

end Builder

namespace Draft

theorem unite_front (draft : Draft) (call : UnionCall) :
    (draft.unite dialect call).frontValues = draft.frontValues := by
  cases call with
  | branch keepsDuplicates other => rfl
  | orderBy column direction =>
      simp only [unite, addOrder, changeWindow]
      split <;> rfl
  | orderByRaw sql values =>
      simp only [unite, addOrder, changeWindow]
      split <;> rfl

theorem unite_alone (single : draft.branches = []) (plain : call.isBranch = false)
    (fair : call.Fair dialect) :
    (draft.unite dialect call).branches = [] ∧
      (draft.unite dialect call).unionWindow = draft.unionWindow ∧
      (draft.unite dialect call).window.values = draft.window.values ++ call.ordering := by
  cases call with
  | branch keepsDuplicates other => cases plain
  | orderBy column direction =>
      simp [unite, addOrder, changeWindow, single, DraftWindow.values_push, UnionCall.ordering]
  | orderByRaw sql values =>
      simp [unite, addOrder, changeWindow, single, DraftWindow.values_push, UnionCall.ordering,
        Dialect.Supplied.values fair]

theorem unite_united (united : call.isBranch = true ∨ draft.branches ≠ [])
    (fair : call.Fair dialect) :
    (draft.unite dialect call).branches ≠ [] ∧
      (draft.unite dialect call).window = draft.window ∧
      (draft.unite dialect call).branches.flatMap Filled.values =
        draft.branches.flatMap Filled.values ++ call.carried ∧
      (draft.unite dialect call).unionWindow.values =
        draft.unionWindow.values ++ call.ordering := by
  cases call with
  | branch keepsDuplicates other =>
      refine ⟨List.concat_ne_nil _ _, rfl, ?_, (List.append_nil _).symm⟩
      rw [unite, values_addBranch, Dialect.Supplied.values fair.2]
      rfl
  | orderBy column direction =>
      have some : draft.branches ≠ [] := united.resolve_left Bool.false_ne_true
      simp [unite, addOrder, changeWindow, some, DraftWindow.values_push, UnionCall.carried,
        UnionCall.ordering]
  | orderByRaw sql values =>
      have some : draft.branches ≠ [] := united.resolve_left Bool.false_ne_true
      simp [unite, addOrder, changeWindow, some, DraftWindow.values_push, UnionCall.carried,
        UnionCall.ordering, Dialect.Supplied.values fair]

theorem uniteAll_front (draft : Draft) (calls : List UnionCall) :
    (draft.uniteAll dialect calls).frontValues = draft.frontValues := by
  induction calls generalizing draft with
  | nil => rfl
  | cons call rest ih => exact (ih (draft.unite dialect call)).trans (unite_front draft call)

theorem uniteAll_united (united : draft.branches ≠ []) (fair : ∀ call ∈ calls, call.Fair dialect) :
    (draft.uniteAll dialect calls).window = draft.window ∧
      (draft.uniteAll dialect calls).branches.flatMap Filled.values =
        draft.branches.flatMap Filled.values ++ calls.flatMap UnionCall.carried ∧
      (draft.uniteAll dialect calls).unionWindow.values =
        draft.unionWindow.values ++ calls.flatMap UnionCall.ordering := by
  induction calls generalizing draft with
  | nil => simp [uniteAll]
  | cons call rest ih =>
      obtain ⟨first, later⟩ := List.forall_mem_cons.mp fair
      obtain ⟨still, window, branches, orders⟩ := unite_united (.inr united) first
      obtain ⟨windowToo, branchesToo, ordersToo⟩ := ih still later
      rw [uniteAll, List.foldl_cons, ← uniteAll, windowToo, branchesToo, ordersToo, window,
        branches, orders]
      simp

/-- The text has the order of the query first, then all branches, then the order of the union. -/
theorem uniteAll_values (single : draft.branches = []) (none : draft.unionWindow.values = [])
    (fair : ∀ call ∈ calls, call.Fair dialect) :
    (draft.uniteAll dialect calls).window.values =
        draft.window.values ++ (UnionCall.ahead calls).flatMap UnionCall.ordering ∧
      (draft.uniteAll dialect calls).unionValues =
        (UnionCall.behind calls).flatMap UnionCall.carried ++
          (UnionCall.behind calls).flatMap UnionCall.ordering := by
  induction calls generalizing draft with
  | nil => simp [uniteAll, UnionCall.ahead, UnionCall.behind, unionValues, single, none]
  | cons call rest ih =>
      obtain ⟨first, later⟩ := List.forall_mem_cons.mp fair
      rw [uniteAll, List.foldl_cons, ← uniteAll, UnionCall.ahead, UnionCall.behind]
      cases kind : call.isBranch with
      | true =>
          obtain ⟨united, window, branches, orders⟩ := unite_united (.inl kind) first
          obtain ⟨windowToo, branchesToo, ordersToo⟩ := uniteAll_united united later
          rw [List.takeWhile_cons_of_neg (by simp [kind]),
            List.dropWhile_cons_of_neg (by simp [kind]), unionValues, windowToo, branchesToo,
            ordersToo, window, branches, orders, single, none]
          simp
      | false =>
          obtain ⟨still, kept, put⟩ := unite_alone single kind first
          obtain ⟨window, union⟩ := ih still (kept ▸ none) later
          rw [List.takeWhile_cons_of_pos (by simp [kind]),
            List.dropWhile_cons_of_pos (by simp [kind]), window, union, put]
          simp [UnionCall.ahead, UnionCall.behind]

end Draft

namespace Follows

theorem unite (follows : Follows dialect False kept builder draft) (fair : call.Fair dialect) :
    Follows dialect False kept (builder.unite call) (draft.unite dialect call) := by
  cases call with
  | branch keepsDuplicates other =>
      exact follows.addBranch fair.2.spells (.of_eq fair.2.values.symm) False.elim
  | orderBy column direction => exact follows.orderBy fair
  | orderByRaw sql values => exact follows.orderByRaw fair

theorem uniteAll (follows : Follows dialect False kept builder draft)
    (fair : ∀ call ∈ calls, call.Fair dialect) :
    Follows dialect False kept (builder.uniteAll calls) (draft.uniteAll dialect calls) := by
  induction calls generalizing builder draft with
  | nil => exact follows
  | cons call rest ih =>
      obtain ⟨first, later⟩ := List.forall_mem_cons.mp fair
      exact ih (follows.unite first) later

theorem values_front (follows : Follows dialect exact kept builder draft) :
    (draft.select dialect).values =
      draft.frontValues ++ draft.window.values ++ draft.unionValues := by
  rw [follows.values_select, Draft.frontValues]
  simp only [List.append_assoc]

theorem front (follows : Follows dialect exact kept builder draft) (holds : exact) :
    builder.bindings.front = draft.frontValues := by
  rw [Bindings.front, Draft.frontValues, follows.projection.same holds, follows.join,
    follows.filter.same holds, follows.having]

end Follows

end

/-- Branches and orders on a query without a union, in any order. The values of the order of the
query are those that its text has first. Behind them, the text has the values of all branches and
then those of the order of the union, and the builder has both in the order of the calls; so they
land in place if no branch with values comes behind an order of the union with values, and where all
values differ in no other case. -/
theorem union_values_in_place_iff (dialect : Dialect) (steps : List Step) (calls : List UnionCall)
    (fair : FairSteps dialect steps) (accepted : (({ dialect } : Builder).run steps).fault = none)
    (single : (({ dialect } : Builder).run steps).query.unions = [])
    (supplied : ∀ call ∈ calls, call.Fair dialect) :
    let before := ({ dialect } : Builder).run steps
    let builder := before.uniteAll calls
    let draft := (Draft.run dialect {} steps).uniteAll dialect calls
    let ahead := UnionCall.ahead calls
    let behind := UnionCall.behind calls
    let InPlace := dialect.fill (dialect.select builder.query)
      (draft.frontValues ++ builder.bindings.order ++ builder.bindings.union) =
        some (draft.select dialect)
    builder.statement = .ok ⟨dialect.select builder.query,
        builder.bindings.front ++ builder.bindings.order ++ builder.bindings.union⟩ ∧
      (OrderlySteps dialect {} steps → builder.bindings.front = draft.frontValues) ∧
      (draft.select dialect).values = draft.frontValues ++
        (before.bindings.order ++ ahead.flatMap UnionCall.ordering) ++
        (behind.flatMap UnionCall.carried ++ behind.flatMap UnionCall.ordering) ∧
      builder.bindings.order = before.bindings.order ++ ahead.flatMap UnionCall.ordering ∧
      builder.bindings.union = behind.flatMap UnionCall.values ∧
      (UnionCall.BranchesFirst behind → InPlace) ∧
      (builder.bindings.union.Nodup → (InPlace ↔ UnionCall.BranchesFirst behind)) := by
  intro before builder draft ahead behind InPlace
  have base : Follows dialect False _ before _ := .chain fair False.elim accepted
  have follows : Follows dialect False _ builder draft := base.uniteAll supplied
  have alone : (Draft.run dialect {} steps).branches = [] :=
    base.single_iff.mp (by rw [single]; rfl)
  obtain ⟨ordered, united⟩ := Draft.uniteAll_values alone (base.placed alone) supplied
  rw [← base.order] at ordered
  have text : (draft.select dialect).values = draft.frontValues ++
      (before.bindings.order ++ ahead.flatMap UnionCall.ordering) ++
      (behind.flatMap UnionCall.carried ++ behind.flatMap UnionCall.ordering) := by
    rw [follows.values_front, ordered, united]
  have order : builder.bindings.order =
      before.bindings.order ++ ahead.flatMap UnionCall.ordering := by
    rw [follows.order, ordered]
  have union : builder.bindings.union = behind.flatMap UnionCall.values := by
    rw [Builder.uniteAll_union single, base.lone alone, List.nil_append]
  have inPlace : InPlace ↔ behind.flatMap UnionCall.values =
      behind.flatMap UnionCall.carried ++ behind.flatMap UnionCall.ordering := by
    rw [show InPlace ↔ _ from follows.fill_iff _, text, order, union, List.append_cancel_left_eq]
  refine ⟨?_, fun orderly => ?_, text, order, union, fun first => inPlace.mpr first.values_eq,
    fun distinct => ⟨fun placed => ?_, fun first => inPlace.mpr first.values_eq⟩⟩
  · have sound : builder.fault = none := (Builder.uniteAll_fault before supplied).trans accepted
    rw [Builder.statement, Builder.sql, Builder.sound, sound, follows.speaks, Bindings.flatten_eq]
    simp only [Bindings.front, List.append_assoc]
    rfl
  · have exactly : Follows dialect True _ before _ := .chain fair (fun _ => orderly) accepted
    rw [Builder.uniteAll_front, Draft.uniteAll_front, exactly.front trivial]
  · rw [union] at distinct
    exact .of_values_eq distinct (inPlace.mp placed)

/-- A query whose own order carries a value. -/
def orderedSteps : List Step :=
  [.table (.named "a"), .orderByRaw "FIELD(id, ?)" [.integer 1]]

/-- A branch with one value. -/
def branchOf (table : String) (value : Int) : UnionCall :=
  .branch false (({ dialect := Vendor.sqlite.dialect } : Builder).run
    [.table (.named table), .whereCompare .and (.named "id") "=" (.bound (.integer value))])

theorem branchOf_fair (table : String) (value : Int) :
    (branchOf table value).Fair Vendor.sqlite.dialect := by
  have fair : FairSteps Vendor.sqlite.dialect [.table (.named table),
      .whereCompare .and (.named "id") "=" (.bound (.integer value))] :=
    ⟨trivial, ⟨trivial, trivial⟩, trivial⟩
  exact UnionCall.fair_chain fair rfl (.of_orderly fair ⟨trivial, trivial, trivial⟩ rfl)

theorem field_supplied (value : Value) :
    Vendor.sqlite.dialect.Supplied "FIELD(id, ?)" [value] :=
  ⟨rfl, rfl⟩

theorem orderedSteps_fair : FairSteps Vendor.sqlite.dialect orderedSteps :=
  ⟨trivial, field_supplied _, trivial⟩

/-- Both branches in front of the order of the union. -/
theorem branches_first_in_place :
    let calls := [branchOf "b" 2, branchOf "c" 3, .orderByRaw "FIELD(id, ?)" [.integer 4]]
    let builder := (({ dialect := Vendor.sqlite.dialect } : Builder).run orderedSteps).uniteAll calls
    let draft := (Draft.run Vendor.sqlite.dialect {} orderedSteps).uniteAll Vendor.sqlite.dialect calls
    builder.bindings.flatten = [.integer 1, .integer 2, .integer 3, .integer 4] ∧
      Vendor.sqlite.dialect.fill (Vendor.sqlite.dialect.select builder.query)
        (draft.frontValues ++ builder.bindings.order ++ builder.bindings.union) =
          some (draft.select Vendor.sqlite.dialect) := by
  intro calls builder draft
  have supplied : ∀ call ∈ calls, call.Fair Vendor.sqlite.dialect := by
    exact List.forall_mem_cons.mpr ⟨branchOf_fair _ _, List.forall_mem_cons.mpr
      ⟨branchOf_fair _ _, List.forall_mem_cons.mpr ⟨field_supplied _, nofun⟩⟩⟩
  have first : UnionCall.BranchesFirst (UnionCall.behind calls) :=
    .cons (fun _ _ => .inl rfl) (.cons (fun _ _ => .inl rfl) (.cons nofun .nil))
  obtain ⟨-, -, -, -, -, placed, -⟩ := union_values_in_place_iff Vendor.sqlite.dialect orderedSteps
    calls orderedSteps_fair rfl rfl supplied
  exact ⟨rfl, placed first⟩

/-- A branch behind the order of the union: its value comes last, and its marker does not. -/
theorem late_branch_values_misplaced :
    let calls := [branchOf "b" 2, .orderByRaw "FIELD(id, ?)" [.integer 4], branchOf "c" 3]
    let builder := (({ dialect := Vendor.sqlite.dialect } : Builder).run orderedSteps).uniteAll calls
    let draft := (Draft.run Vendor.sqlite.dialect {} orderedSteps).uniteAll Vendor.sqlite.dialect calls
    builder.bindings.flatten = [.integer 1, .integer 2, .integer 4, .integer 3] ∧
    (draft.select Vendor.sqlite.dialect).values = [.integer 1, .integer 2, .integer 3, .integer 4] ∧
      Vendor.sqlite.dialect.fill (Vendor.sqlite.dialect.select builder.query)
        builder.bindings.flatten ≠ some (draft.select Vendor.sqlite.dialect) := by
  intro calls builder draft
  have supplied : ∀ call ∈ calls, call.Fair Vendor.sqlite.dialect := by
    exact List.forall_mem_cons.mpr ⟨branchOf_fair _ _, List.forall_mem_cons.mpr
      ⟨field_supplied _, List.forall_mem_cons.mpr ⟨branchOf_fair _ _, nofun⟩⟩⟩
  have follows : Follows Vendor.sqlite.dialect False _ builder draft :=
    (Follows.chain orderedSteps_fair False.elim rfl).uniteAll supplied
  have text : (draft.select Vendor.sqlite.dialect).values =
      [.integer 1, .integer 2, .integer 3, .integer 4] := by decide +kernel
  refine ⟨rfl, text, ?_⟩
  rw [ne_eq, follows.fill_iff, text]
  decide +kernel

end SqlToolkit
