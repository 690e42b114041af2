import SqlToolkit.Proofs.Numbering.Entries
/-!
Rolls: the entries of a statement by the calls that made it. Each call adds to its clause the names
that it was given and a place for each value. A call that replaces the select list takes away its
places but not the values that are bound for them; a roll counts such values clause by clause.
-/

namespace SqlToolkit

namespace Entry

variable {α : Type}

/-- The number of places among entries. -/
def places (entries : List (Entry α)) : Nat :=
  entries.countP isParameter

@[simp] theorem places_nil : places ([] : List (Entry α)) = 0 :=
  rfl

@[simp] theorem places_append (left right : List (Entry α)) :
    places (left ++ right) = places left + places right :=
  List.countP_append

@[simp] theorem places_names (names : List String) :
    places (names.map .name : List (Entry α)) = 0 := by
  simp [places, isParameter]

end Entry

structure Roll where
  /-- The entries of each column. -/
  columns : List (List (Entry Unit)) := []
  table : Option Identifier := none
  joins : List Join := []
  wheres : List (Entry Unit) := []
  groups : List Identifier := []
  havings : List (Entry Unit) := []
  orders : List (Entry Unit) := []
  /-- The entries of each branch of the union. -/
  branches : List (List (Entry Unit)) := []
  unionOrders : List (Entry Unit) := []
  /-- The values without a place that are bound to the select list, the predicates and the
  branches. -/
  spareColumns : Nat := 0
  spareWheres : Nat := 0
  spareBranches : Nat := 0

namespace Roll

variable (tablePrefix : String)

def spare (roll : Roll) : Nat :=
  roll.spareColumns + roll.spareWheres + roll.spareBranches

/-- The entries of the select list; an empty one stands for a star. -/
def selected (roll : Roll) : List (Entry Unit) :=
  if roll.columns = [] then [.name "*"] else roll.columns.flatten

/-- The entries of the select statement. -/
def select (roll : Roll) : List (Entry Unit) :=
  roll.selected ++ roll.table.toList.flatMap (Entry.ofTable tablePrefix) ++
    roll.joins.flatMap (Entry.ofJoin tablePrefix) ++ roll.wheres ++
    roll.groups.flatMap (Entry.ofColumn tablePrefix) ++ roll.havings ++ roll.orders ++
    roll.branches.flatten ++ roll.unionOrders

/-! Single calls -/

def addColumn (roll : Roll) (entries : List (Entry Unit)) (spare : Nat) : Roll :=
  { roll with columns := roll.columns ++ [entries], spareColumns := roll.spareColumns + spare }

def addWhere (roll : Roll) (entries : List (Entry Unit)) (spare : Nat) : Roll :=
  { roll with wheres := roll.wheres ++ entries, spareWheres := roll.spareWheres + spare }

def addHaving (roll : Roll) (entries : List (Entry Unit)) : Roll :=
  { roll with havings := roll.havings ++ entries }

/-- Behind a union the order is that of the whole union. -/
def addOrder (roll : Roll) (entries : List (Entry Unit)) : Roll :=
  if roll.branches = [] then { roll with orders := roll.orders ++ entries }
  else { roll with unionOrders := roll.unionOrders ++ entries }

def addBranch (roll : Roll) (entries : List (Entry Unit)) (spare : Nat) : Roll :=
  { roll with
    branches := roll.branches ++ [entries], spareBranches := roll.spareBranches + spare }

/-! Steps -/

mutual

def step (roll : Roll) : Step → Roll
  | .table table => { roll with table := some table }
  | .select columns =>
      { roll with
        columns := columns.map (Entry.ofColumn tablePrefix)
        spareColumns := roll.spareColumns + Entry.places roll.columns.flatten }
  | .addSelect columns =>
      { roll with columns := roll.columns ++ columns.map (Entry.ofColumn tablePrefix) }
  | .selectQuery steps shown =>
      let inner := run {} steps
      roll.addColumn (inner.select tablePrefix ++ [.name shown]) inner.spare
  | .join join => { roll with joins := roll.joins ++ [join] }
  | .whereCompare _ column _ operand =>
      roll.addWhere (Entry.ofComparison tablePrefix column operand) 0
  | .whereAll conditions =>
      roll.addWhere (conditions.flatMap fun (column, _, operand) =>
        Entry.ofComparison tablePrefix column operand) 0
  | .whereRecord record =>
      roll.addWhere (record.entries.flatMap fun (column, operand) =>
        Entry.ofComparison tablePrefix (.named column) operand) 0
  | .whereGroup _ steps =>
      let inner := run { table := roll.table } steps
      roll.addWhere inner.wheres inner.spareWheres
  | .whereGroupOf _ steps =>
      let inner := run {} steps
      roll.addWhere inner.wheres inner.spareWheres
  | .whereQuery _ column _ steps =>
      let inner := run {} steps
      roll.addWhere (Entry.ofColumn tablePrefix column ++ inner.select tablePrefix) inner.spare
  | .whereColumns _ first _ second =>
      roll.addWhere (Entry.ofColumn tablePrefix first ++ Entry.ofColumn tablePrefix second) 0
  | .whereIn _ _ column operands =>
      roll.addWhere (Entry.ofMembership tablePrefix column operands) 0
  | .whereInQuery _ _ column steps =>
      let inner := run {} steps
      roll.addWhere (Entry.ofColumn tablePrefix column ++ inner.select tablePrefix) inner.spare
  | .whereNull _ _ column => roll.addWhere (Entry.ofColumn tablePrefix column) 0
  | .whereBetween _ _ column low high =>
      roll.addWhere (Entry.ofColumn tablePrefix column ++ Entry.ofOperand low ++
        Entry.ofOperand high) 0
  | .whereExists _ _ steps =>
      let inner := run {} steps
      roll.addWhere (inner.select tablePrefix) inner.spare
  | .whereDate _ _ column _ operand =>
      roll.addWhere (Entry.ofColumn tablePrefix column ++ Entry.ofOperand operand) 0
  | .applyScope steps => run roll steps
  | .groupBy columns => { roll with groups := roll.groups ++ columns }
  | .having _ column _ operand =>
      roll.addHaving (Entry.ofColumn tablePrefix column ++ Entry.ofOperand operand)
  | .orderBy column _ => roll.addOrder (Entry.ofColumn tablePrefix column)
  | .union _ steps =>
      let inner := run {} steps
      roll.addBranch (inner.select tablePrefix) inner.spare
  | .mergeWheres steps _ =>
      -- Ready-made predicates bring the entries that they have.
      roll.addWhere (Entry.ofClauses tablePrefix
        (({ dialect := counted tablePrefix } : Builder).run steps).query.wheres) 0
  | .selectRaw _ _ | .whereRaw _ _ _ | .havingRaw _ _ _ | .orderByRaw _ _ | .distinct | .limit _
  | .offset _ | .forPage _ _ | .lock _ | .setBindings _ _ | .addBinding _ _ | .mergeBindings _ =>
      roll

def run (roll : Roll) : List Step → Roll
  | [] => roll
  | first :: rest => run (step roll first) rest

end

end Roll

/-! Untouched steps: no bucket of values is edited by hand, and predicates that are merged in come
with a value for each of their places. -/

mutual

def Step.Untouched (tablePrefix : String) : Step → Prop
  | .selectQuery steps _ | .whereGroup _ steps | .whereGroupOf _ steps | .whereQuery _ _ _ steps
  | .whereInQuery _ _ _ steps | .whereExists _ _ steps | .applyScope steps | .union _ steps =>
      UntouchedSteps tablePrefix steps
  | .setBindings _ _ | .addBinding _ _ | .mergeBindings _ => False
  | .mergeWheres steps values =>
      values.length = Entry.places (Entry.ofClauses tablePrefix
        (({ dialect := counted tablePrefix } : Builder).run steps).query.wheres)
  | _ => True

def UntouchedSteps (tablePrefix : String) : List Step → Prop
  | [] => True
  | first :: rest => first.Untouched tablePrefix ∧ UntouchedSteps tablePrefix rest

end

end SqlToolkit
