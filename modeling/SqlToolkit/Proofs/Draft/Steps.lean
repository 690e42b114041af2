import SqlToolkit.Proofs.Draft.Basic
import SqlToolkit.Query.Step
/-!
The calls of a builder on a draft: each puts the values that it is given into the text that it adds.
What a caller has to keep to is stated beside it, for fragments and for the order of calls.
-/

namespace SqlToolkit

namespace Filled

variable (dialect : Dialect)

def comparison (column : Identifier) (operator : String) (right : Operand) : Filled :=
  ofText (dialect.columnRef column ++ " " ++ operator ++ " ") ++ operand right

def nullTest (negated : Bool) (column : Identifier) : Filled :=
  ofText (dialect.columnRef column ++ " IS " ++ Dialect.negation negated ++ "NULL")

/-- NULL is not a value to put into a comparison. -/
def condition (column : Identifier) (operator : String) (right : Operand) : Filled :=
  if right.isNull then nullTest dialect (operator ≠ "=") column
  else comparison dialect column operator right

def membership (negated : Bool) (column : Identifier) (operands : List Operand) : Filled :=
  if operands = [] then ofText (if negated then "1 = 1" else "0 = 1")
  else
    ofText (dialect.columnRef column ++ " " ++ Dialect.negation negated ++ "IN (") ++
      join ", " (operands.map operand) ++ ofText ")"

def range (negated : Bool) (column : Identifier) (low high : Operand) : Filled :=
  ofText (dialect.columnRef column ++ " " ++ Dialect.negation negated ++ "BETWEEN ") ++
    operand low ++ ofText " AND " ++ operand high

def dateComparison (part : DatePart) (column : Identifier) (operator : String)
    (right : Operand) : Filled :=
  ofText (dialect.datePart part (dialect.columnRef column) ++ " " ++ operator ++ " ") ++
    operand right

end Filled

/-- SQLite compares a part of a date as text, other vendors as it is. -/
def Operand.forDate (dialect : Dialect) (part : DatePart) : Operand → Operand
  | .bound value => .bound (dialect.datePartValue part value)
  | .verbatim sql => .verbatim sql

namespace Draft

/-! Single calls -/

def addColumns (draft : Draft) (columns : List Filled) : Draft :=
  { draft with columns := draft.columns ++ columns }

def addWhere (draft : Draft) (connective : Connective) (text : Filled) : Draft :=
  { draft with wheres := draft.wheres ++ [(connective, text)] }

/-- Predicates as one group; no predicates are no group. -/
def addGroup (draft : Draft) (connective : Connective) (members : List (Connective × Filled)) :
    Draft :=
  if members = [] then draft else draft.addWhere connective (Filled.chain members).enclosed

def addHaving (draft : Draft) (connective : Connective) (text : Filled) : Draft :=
  { draft with havings := draft.havings ++ [(connective, text)] }

/-- Predicates from a place on as one group, chained as the first of them was. -/
def groupFrom (place : Nat) (wheres : List (Connective × Filled)) : List (Connective × Filled) :=
  match wheres.drop place with
  | [] => wheres
  | first :: rest => wheres.take place ++ [(first.1, (Filled.chain (first :: rest)).enclosed)]

/-- What a scope added to `draft` becomes one group, if there were predicates before. -/
def afterScope (draft after : Draft) : Draft :=
  if draft.wheres = [] then after
  else { after with wheres := groupFrom draft.wheres.length after.wheres }

/-- The window of the whole union once there are branches, and the draft's own before. -/
def changeWindow (draft : Draft) (f : DraftWindow → DraftWindow) : Draft :=
  if draft.branches = [] then { draft with window := f draft.window }
  else { draft with unionWindow := f draft.unionWindow }

def addOrder (draft : Draft) (order : Filled) : Draft :=
  draft.changeWindow fun window => { window with orders := window.orders ++ [order] }

def addBranch (dialect : Dialect) (draft : Draft) (keepsDuplicates : Bool)
    (branch : Filled) : Draft :=
  { draft with branches := draft.branches ++
      [Filled.ofText (if keepsDuplicates then "UNION ALL " else "UNION ") ++
        unionSide dialect branch] }

/-! Steps. A list of values that is put into a bucket by hand has no place in the text, so a draft
does not take part in it. -/

mutual

def step (dialect : Dialect) (draft : Draft) : Step → Draft
  | .table table => { draft with table := some table }
  | .select columns =>
      { draft with columns := columns.map fun column => Filled.ofText (dialect.columnRef column) }
  | .addSelect columns =>
      draft.addColumns (columns.map fun column => Filled.ofText (dialect.columnRef column))
  | .selectRaw sql values => draft.addColumns [dialect.supply sql values]
  | .selectQuery steps shown =>
      draft.addColumns [((run dialect {} steps).select dialect).enclosed ++
        Filled.ofText (" AS " ++ dialect.quoted shown)]
  | .distinct => { draft with distinct := true }
  | .join join => { draft with joins := draft.joins ++ [join] }
  | .whereCompare connective column operator operand =>
      draft.addWhere connective (Filled.condition dialect column operator operand)
  | .whereAll conditions =>
      draft.addGroup .and (conditions.map fun (column, operator, operand) =>
        (.and, Filled.condition dialect column operator operand))
  | .whereRecord record =>
      draft.addGroup .and (record.entries.map fun (column, operand) =>
        (.and, Filled.condition dialect (.named column) "=" operand))
  | .whereGroup connective steps =>
      draft.addGroup connective (run dialect { table := draft.table } steps).wheres
  | .whereGroupOf connective steps => draft.addGroup connective (run dialect {} steps).wheres
  | .whereQuery connective column operator steps =>
      draft.addWhere connective
        (Filled.ofText (dialect.columnRef column ++ " " ++ operator ++ " (") ++
          (run dialect {} steps).select dialect ++ Filled.ofText ")")
  | .whereColumns connective first operator second =>
      draft.addWhere connective (Filled.ofText
        (dialect.columnRef first ++ " " ++ operator ++ " " ++ dialect.columnRef second))
  | .whereIn connective negated column operands =>
      draft.addWhere connective (Filled.membership dialect negated column operands)
  | .whereInQuery connective negated column steps =>
      draft.addWhere connective
        (Filled.ofText (dialect.columnRef column ++ " " ++ Dialect.negation negated ++ "IN (") ++
          (run dialect {} steps).select dialect ++ Filled.ofText ")")
  | .whereNull connective negated column =>
      draft.addWhere connective (Filled.nullTest dialect negated column)
  | .whereBetween connective negated column low high =>
      draft.addWhere connective (Filled.range dialect negated column low high)
  | .whereExists connective negated steps =>
      draft.addWhere connective (Filled.ofText (Dialect.negation negated ++ "EXISTS (") ++
        (run dialect {} steps).select dialect ++ Filled.ofText ")")
  | .whereDate connective part column operator operand =>
      draft.addWhere connective
        (Filled.dateComparison dialect part column operator (operand.forDate dialect part))
  | .whereRaw connective sql values => draft.addWhere connective (dialect.supply sql values)
  | .applyScope steps => draft.afterScope (run dialect draft steps)
  | .groupBy columns => { draft with groups := draft.groups ++ columns }
  | .having connective column operator operand =>
      draft.addHaving connective (Filled.comparison dialect column operator operand)
  | .havingRaw connective sql values => draft.addHaving connective (dialect.supply sql values)
  | .orderBy column direction =>
      draft.addOrder (Filled.ofText (dialect.columnRef column ++ " " ++ direction.text))
  | .orderByRaw sql values => draft.addOrder (dialect.supply sql values)
  | .limit count => draft.changeWindow fun window => { window with limit := some count.toNat }
  | .offset count => draft.changeWindow fun window => { window with offset := some count.toNat }
  | .forPage page perPage =>
      draft.changeWindow fun window => { window with
        offset := some (Number.saturatingMul (page - 1) perPage), limit := some perPage }
  | .union keepsDuplicates steps =>
      draft.addBranch dialect keepsDuplicates ((run dialect {} steps).select dialect)
  | .lock lock => { draft with lock := some lock }
  | .setBindings _ _ => draft
  | .addBinding _ _ => draft
  | .mergeBindings _ => draft
  | .mergeWheres _ _ => draft

def run (dialect : Dialect) (draft : Draft) : List Step → Draft
  | [] => draft
  | first :: rest => run dialect (step dialect draft first) rest

end

end Draft

/-! Fair steps: every fragment of SQL is supplied, those that take no values with none, and no
bucket of values is edited by hand. Names may be made of any characters. -/

def Identifier.Fair (dialect : Dialect) : Identifier → Prop
  | named _ => True
  | verbatim sql => dialect.Supplied sql []

def Operand.Fair (dialect : Dialect) : Operand → Prop
  | bound _ => True
  | verbatim sql => dialect.Supplied sql []

def JoinTarget.Fair (dialect : Dialect) : JoinTarget → Prop
  | .column right => right.Fair dialect
  | .value right => right.Fair dialect

structure JoinCondition.Fair (dialect : Dialect) (condition : JoinCondition) : Prop where
  first : condition.first.Fair dialect
  second : condition.second.Fair dialect

structure Join.Fair (dialect : Dialect) (join : Join) : Prop where
  table : join.table.Fair dialect
  conditions : ∀ condition ∈ join.conditions, condition.Fair dialect

def Lock.Fair (dialect : Dialect) : Lock → Prop
  | raw sql => dialect.Supplied sql []
  | _ => True

mutual

def Step.Fair (dialect : Dialect) : Step → Prop
  | .table table => table.Fair dialect
  | .select columns => ∀ column ∈ columns, column.Fair dialect
  | .addSelect columns => ∀ column ∈ columns, column.Fair dialect
  | .selectRaw sql values => dialect.Supplied sql values
  | .selectQuery steps _ => FairSteps dialect steps
  | .distinct => True
  | .join join => join.Fair dialect
  | .whereCompare _ column _ operand => column.Fair dialect ∧ operand.Fair dialect
  | .whereAll conditions =>
      ∀ condition ∈ conditions, condition.1.Fair dialect ∧ condition.2.2.Fair dialect
  | .whereRecord record => ∀ entry ∈ record.entries, entry.2.Fair dialect
  | .whereGroup _ steps => FairSteps dialect steps
  | .whereGroupOf _ steps => FairSteps dialect steps
  | .whereQuery _ column _ steps => column.Fair dialect ∧ FairSteps dialect steps
  | .whereColumns _ first _ second => first.Fair dialect ∧ second.Fair dialect
  | .whereIn _ _ column operands =>
      column.Fair dialect ∧ ∀ operand ∈ operands, operand.Fair dialect
  | .whereInQuery _ _ column steps => column.Fair dialect ∧ FairSteps dialect steps
  | .whereNull _ _ column => column.Fair dialect
  | .whereBetween _ _ column low high =>
      column.Fair dialect ∧ low.Fair dialect ∧ high.Fair dialect
  | .whereExists _ _ steps => FairSteps dialect steps
  | .whereDate _ _ column _ operand => column.Fair dialect ∧ operand.Fair dialect
  | .whereRaw _ sql values => dialect.Supplied sql values
  | .applyScope steps => FairSteps dialect steps
  | .groupBy columns => ∀ column ∈ columns, column.Fair dialect
  | .having _ column _ operand => column.Fair dialect ∧ operand.Fair dialect
  | .havingRaw _ sql values => dialect.Supplied sql values
  | .orderBy column _ => column.Fair dialect
  | .orderByRaw sql values => dialect.Supplied sql values
  | .limit _ => True
  | .offset _ => True
  | .forPage _ _ => True
  | .union _ steps => FairSteps dialect steps
  | .lock lock => lock.Fair dialect
  | .setBindings _ _ => False
  | .addBinding _ _ => False
  | .mergeBindings _ => False
  | .mergeWheres _ _ => False

def FairSteps (dialect : Dialect) : List Step → Prop
  | [] => True
  | first :: rest => first.Fair dialect ∧ FairSteps dialect rest

end

/-! Orderly steps: the select list is not replaced while it carries values, and no branch is added
behind an order of the whole union that carries values; the same within every part. -/

mutual

def Step.Orderly (dialect : Dialect) (draft : Draft) : Step → Prop
  | .select _ => draft.columnValues = []
  | .selectQuery steps _ => OrderlySteps dialect {} steps
  | .whereGroup _ steps => OrderlySteps dialect { table := draft.table } steps
  | .whereGroupOf _ steps => OrderlySteps dialect {} steps
  | .whereQuery _ _ _ steps => OrderlySteps dialect {} steps
  | .whereInQuery _ _ _ steps => OrderlySteps dialect {} steps
  | .whereExists _ _ steps => OrderlySteps dialect {} steps
  | .applyScope steps => OrderlySteps dialect draft steps
  | .union _ steps => draft.unionWindow.values = [] ∧ OrderlySteps dialect {} steps
  | _ => True

def OrderlySteps (dialect : Dialect) (draft : Draft) : List Step → Prop
  | [] => True
  | first :: rest =>
      first.Orderly dialect draft ∧ OrderlySteps dialect (Draft.step dialect draft first) rest

end

/-! Positional steps: the values of the steps, put from left to right into the markers of their
select statement, land where the steps gave them. -/

def Positional (dialect : Dialect) (steps : List Step) : Prop :=
  let builder := ({ dialect } : Builder).run steps
  dialect.fill (dialect.select builder.query) builder.bindings.flatten =
    some ((Draft.run dialect {} steps).select dialect)

/-! Whether the queries that steps put into predicates, also into those of groups and scopes, are
positional -/

mutual

def Step.QueriesPositional (dialect : Dialect) : Step → Prop
  | .whereGroup _ steps => QueriesPositional dialect steps
  | .whereGroupOf _ steps => QueriesPositional dialect steps
  | .whereQuery _ _ _ steps => Positional dialect steps
  | .whereInQuery _ _ _ steps => Positional dialect steps
  | .whereExists _ _ steps => Positional dialect steps
  | .applyScope steps => QueriesPositional dialect steps
  | _ => True

def QueriesPositional (dialect : Dialect) : List Step → Prop
  | [] => True
  | first :: rest => first.QueriesPositional dialect ∧ QueriesPositional dialect rest

end

def Vendor.dialect (vendor : Vendor) : Dialect :=
  ⟨vendor, "", vendor.defaultMarker⟩

end SqlToolkit
