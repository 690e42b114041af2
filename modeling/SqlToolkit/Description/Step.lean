import SqlToolkit.Description.Instruction
import SqlToolkit.Description.Value
import SqlToolkit.Query.Step
/-!
Steps of a query written as instructions. The steps of a part of the query are one argument. The
name of a step that adds a predicate may begin with `or_`.
-/

namespace SqlToolkit

open Document

/-- The connective that a name begins with, and the rest of the name. -/
def splitConnective (name : String) : Connective × String :=
  if "or_".toList.isPrefixOf name.toList then (.or, String.ofList (name.toList.drop 3))
  else (.and, name)

def Connective.ofDocument? : Document → Option Connective
  | .text "and" => some .and
  | .text "or" => some .or
  | _ => none

def JoinKind.ofDocument? : Document → Option JoinKind
  | .text "inner" => some .inner
  | .text "left" => some .left
  | .text "right" => some .right
  | .text "cross" => some .cross
  | _ => none

/-- A direction to lock in, or the text of a lock. -/
def Lock.ofDocument? : Document → Option Lock
  | .boolean true => some .forUpdate
  | .boolean false => some .shared
  | .text sql => some (.raw sql)
  | _ => none

/-- A condition on a column by `on`, or on a value by `where`. -/
def JoinCondition.ofDocument? (document : Document) : Option JoinCondition := do
  let instruction ← Instruction.ofDocument? document
  let (connective, name) := splitConnective instruction.name
  let target : JoinTarget ← match name with
    | "on" => .column <$> Identifier.ofDocument? (instruction.argument 2)
    | "where" => .value <$> Operand.ofDocument? (instruction.argument 2)
    | _ => none
  return ⟨connective, ← Identifier.ofDocument? (instruction.argument 0), ← (instruction.argument 1).text?, target⟩

def readCondition? : Document → Option (Identifier × String × Operand)
  | .list [column, .text operator, operand] => do
      return (← Identifier.ofDocument? column, operator, ← Operand.ofDocument? operand)
  | _ => none

namespace Step

/-- A join on two columns or on a column and an operand, which are the second and fourth
argument. -/
def readJoin? (kind : JoinKind) (instruction : Instruction) (target : Document → Option JoinTarget) :
    Option Step := do
  return join ⟨kind, ← Identifier.ofDocument? (instruction.argument 0),
    [⟨.and, ← Identifier.ofDocument? (instruction.argument 1), ← (instruction.argument 2).text?,
      ← target (instruction.argument 3)⟩]⟩

/-- The steps on the select list, the tables and the window; `steps` reads the steps of a part. -/
def readClause? (steps : Document → Option (List Step)) (instruction : Instruction) : Option Step :=
  let a := instruction.argument 0
  let b := instruction.argument 1
  let columns := Document.items? Identifier.ofDocument?
  let values := Document.items? Value.ofDocument?
  let column target := JoinTarget.column <$> Identifier.ofDocument? target
  let value target := JoinTarget.value <$> Operand.ofDocument? target
  match instruction.name with
  | "from" => table <$> Identifier.ofDocument? a
  | "select" => select <$> columns a
  | "add_select" => addSelect <$> columns a
  | "add_select_raw_of" => (addSelect [.verbatim ·]) <$> a.text?
  | "select_raw" => selectRaw <$> a.text? <*> values b
  | "select_sub" => selectQuery <$> steps a <*> b.text?
  | "distinct" => some distinct
  | "join" => readJoin? .inner instruction column
  | "left_join" => readJoin? .left instruction column
  | "right_join" => readJoin? .right instruction column
  | "join_where" => readJoin? .inner instruction value
  | "left_join_where" => readJoin? .left instruction value
  | "cross_join" => (join ⟨.cross, ·, []⟩) <$> Identifier.ofDocument? a
  | "join_with" => do
      let conditions ← (instruction.argument 2).items? JoinCondition.ofDocument?
      return join ⟨← JoinKind.ofDocument? b, ← Identifier.ofDocument? a, conditions⟩
  | "apply_scope" => applyScope <$> steps a
  | "group_by" => groupBy <$> columns a
  | "order_by" => do
      return orderBy (← Identifier.ofDocument? a) (← (Direction.ofName (← b.text?)).toOption)
  | "order_by_desc" | "latest_by" => (orderBy · .descending) <$> Identifier.ofDocument? a
  | "oldest_by" => (orderBy · .ascending) <$> Identifier.ofDocument? a
  | "latest" => some (orderBy (.named "created_at") .descending)
  | "oldest" => some (orderBy (.named "created_at") .ascending)
  | "order_by_raw" => orderByRaw <$> a.text? <*> values b
  | "limit" | "take" => limit <$> a.integer?
  | "offset" | "skip" => offset <$> a.integer?
  | "for_page" => forPage <$> a.count? <*> b.count?
  | "union" => union false <$> steps a
  | "union_all" => union true <$> steps a
  | "lock" => lock <$> Lock.ofDocument? a
  | "lock_for_update" => some (lock .forUpdate)
  | "shared_lock" => some (lock .shared)
  | "set_bindings" => setBindings <$> values a <*> b.text?
  | "add_binding" => addBinding <$> Value.ofDocument? a <*> b.text?
  | "merge_bindings" => mergeBindings <$> steps a
  | "merge_wheres" => mergeWheres <$> steps a <*> values b
  | _ => none

def readPredicate? (steps : Document → Option (List Step)) (instruction : Instruction) : Option Step :=
  let (connective, name) := splitConnective instruction.name
  let a := instruction.argument 0
  let b := instruction.argument 1
  let c := instruction.argument 2
  let column := Identifier.ofDocument? a
  let values := Document.items? Value.ofDocument?
  let operands := Document.items? Operand.ofDocument?
  let date part := whereDate connective part <$> column <*> b.text? <*> Operand.ofDocument? c
  match name with
  | "where" => whereCompare connective <$> column <*> b.text? <*> Operand.ofDocument? c
  | "where_eq" => (whereCompare connective · "=" ·) <$> column <*> Operand.ofDocument? b
  | "where_map" => whereRecord <$> Record.ofDocument? a
  | "where_list" => whereAll <$> a.items? readCondition?
  | "where_nested" => whereGroup connective <$> steps a
  | "add_nested_where_query" => whereGroupOf <$> Connective.ofDocument? b <*> steps a
  | "where_sub" => whereQuery connective <$> column <*> b.text? <*> steps c
  | "where_column" => whereColumns connective <$> column <*> b.text? <*> Identifier.ofDocument? c
  | "where_in" => whereIn connective false <$> column <*> operands b
  | "where_not_in" => whereIn connective true <$> column <*> operands b
  | "where_in_sub" => whereInQuery connective false <$> column <*> steps b
  | "where_not_in_sub" => whereInQuery connective true <$> column <*> steps b
  | "where_null" => whereNull connective false <$> column
  | "where_not_null" => whereNull connective true <$> column
  | "where_between" =>
      whereBetween connective false <$> column <*> Operand.ofDocument? b <*> Operand.ofDocument? c
  | "where_not_between" =>
      whereBetween connective true <$> column <*> Operand.ofDocument? b <*> Operand.ofDocument? c
  | "where_exists" => whereExists connective false <$> steps a
  | "where_not_exists" => whereExists connective true <$> steps a
  | "where_raw" => whereRaw connective <$> a.text? <*> values b
  | "having" => having connective <$> column <*> b.text? <*> Operand.ofDocument? c
  | "having_raw" => havingRaw connective <$> a.text? <*> values b
  | "where_date" => date .date
  | "where_day" => date .day
  | "where_month" => date .month
  | "where_year" => date .year
  | _ => none

/-- Reads a step whose parts lie at most so deep. -/
def readWithin? : Nat → Document → Option Step
  | 0, _ => none
  | depth + 1, document => do
      let instruction ← Instruction.ofDocument? document
      let steps := Document.items? (readWithin? depth)
      (readClause? steps instruction).or (readPredicate? steps instruction)

def ofDocument? (document : Document) : Option Step :=
  readWithin? document.depth document

end Step

end SqlToolkit
