import SqlToolkit.Query.Builder
/-!
Steps: the calls that grow a builder, as data. A step that takes a part of a query takes it as the
steps that build the part: on an empty builder for a query inside the query, on the builder itself
for a scope.
-/

namespace SqlToolkit

inductive Step where
  | table (table : Identifier)
  | select (columns : List Identifier)
  | addSelect (columns : List Identifier)
  | selectRaw (sql : String) (values : List Value)
  | selectQuery (steps : List Step) (shown : String)
  | distinct
  | join (join : Join)
  | whereCompare (connective : Connective) (column : Identifier) (operator : String)
      (operand : Operand)
  | whereAll (conditions : List (Identifier × String × Operand))
  | whereRecord (record : Record)
  | whereGroup (connective : Connective) (steps : List Step)
  | whereGroupOf (connective : Connective) (steps : List Step)
  | whereQuery (connective : Connective) (column : Identifier) (operator : String)
      (steps : List Step)
  | whereColumns (connective : Connective) (first : Identifier) (operator : String)
      (second : Identifier)
  | whereIn (connective : Connective) (negated : Bool) (column : Identifier)
      (operands : List Operand)
  | whereInQuery (connective : Connective) (negated : Bool) (column : Identifier)
      (steps : List Step)
  | whereNull (connective : Connective) (negated : Bool) (column : Identifier)
  | whereBetween (connective : Connective) (negated : Bool) (column : Identifier)
      (low high : Operand)
  | whereExists (connective : Connective) (negated : Bool) (steps : List Step)
  | whereDate (connective : Connective) (part : DatePart) (column : Identifier) (operator : String)
      (operand : Operand)
  | whereRaw (connective : Connective) (sql : String) (values : List Value)
  | applyScope (steps : List Step)
  | groupBy (columns : List Identifier)
  | having (connective : Connective) (column : Identifier) (operator : String) (operand : Operand)
  | havingRaw (connective : Connective) (sql : String) (values : List Value)
  | orderBy (column : Identifier) (direction : Direction)
  | orderByRaw (sql : String) (values : List Value)
  | limit (count : Int)
  | offset (count : Int)
  | forPage (page perPage : Nat)
  | union (keepsDuplicates : Bool) (steps : List Step)
  | lock (lock : Lock)
  | setBindings (values : List Value) (bucket : String)
  | addBinding (value : Value) (bucket : String)
  | mergeBindings (steps : List Step)
  | mergeWheres (steps : List Step) (values : List Value)

namespace Builder

mutual

def step (builder : Builder) : Step → Builder
  | .table table => builder.table table
  | .select columns => builder.select columns
  | .addSelect columns => builder.addSelect columns
  | .selectRaw sql values => builder.selectRaw sql values
  | .selectQuery steps shown => builder.selectQuery (builder.fresh.run steps) shown
  | .distinct => builder.distinct
  | .join join => builder.join join
  | .whereCompare connective column operator operand =>
      builder.whereCompare connective column operator operand
  | .whereAll conditions => builder.whereAll conditions
  | .whereRecord record => builder.whereRecord record
  | .whereGroup connective steps => builder.whereGroup connective fun nested => nested.run steps
  | .whereGroupOf connective steps => builder.whereGroupOf connective (builder.fresh.run steps)
  | .whereQuery connective column operator steps =>
      builder.whereQuery connective column operator (builder.fresh.run steps)
  | .whereColumns connective first operator second =>
      builder.whereColumns connective first operator second
  | .whereIn connective negated column operands =>
      builder.whereIn connective negated column operands
  | .whereInQuery connective negated column steps =>
      builder.whereInQuery connective negated column (builder.fresh.run steps)
  | .whereNull connective negated column => builder.whereNull connective negated column
  | .whereBetween connective negated column low high =>
      builder.whereBetween connective negated column low high
  | .whereExists connective negated steps =>
      builder.whereExists connective negated (builder.fresh.run steps)
  | .whereDate connective part column operator operand =>
      builder.whereDate connective part column operator operand
  | .whereRaw connective sql values => builder.whereRaw connective sql values
  | .applyScope steps => builder.applyScope fun inner => inner.run steps
  | .groupBy columns => builder.groupBy columns
  | .having connective column operator operand =>
      builder.having connective column operator operand
  | .havingRaw connective sql values => builder.havingRaw connective sql values
  | .orderBy column direction => builder.orderBy column direction
  | .orderByRaw sql values => builder.orderByRaw sql values
  | .limit count => builder.limit count
  | .offset count => builder.offset count
  | .forPage page perPage => builder.forPage page perPage
  | .union keepsDuplicates steps => builder.union keepsDuplicates (builder.fresh.run steps)
  | .lock lock => builder.lock lock
  | .setBindings values bucket => builder.setBindings values bucket
  | .addBinding value bucket => builder.addBinding value bucket
  | .mergeBindings steps => builder.mergeBindings (builder.fresh.run steps)
  | .mergeWheres steps values =>
      builder.mergeWheres (builder.fresh.run steps).query.wheres values

def run (builder : Builder) : List Step → Builder
  | [] => builder
  | first :: rest => (builder.step first).run rest

end

end Builder

end SqlToolkit
