import SqlToolkit.Fault
/-!
The values bound to a query, kept apart by the clause whose markers they fill. A select statement
writes its clauses in the order of the buckets, so the values laid end to end stand in the order of
their markers.
-/

namespace SqlToolkit

/-- The part of a select statement that values are bound to. -/
inductive Bucket where
  | projection
  | join
  | filter
  | having
  | order
  | union
  deriving DecidableEq, Repr

namespace Bucket

def name : Bucket → String
  | projection => "select"
  | join => "join"
  | filter => "where"
  | having => "having"
  | order => "order"
  | union => "union"

/-- All buckets, in the order in which a select statement writes them. -/
def all : List Bucket :=
  [projection, join, filter, having, order, union]

def ofName (name : String) : Except Fault Bucket :=
  match all.find? (·.name = name) with
  | some bucket => .ok bucket
  | none => .error (.unknownBinding name)

end Bucket

structure Bindings where
  projection : List Value := []
  join : List Value := []
  filter : List Value := []
  having : List Value := []
  order : List Value := []
  union : List Value := []
  deriving DecidableEq, Repr

namespace Bindings

def get (bindings : Bindings) : Bucket → List Value
  | .projection => bindings.projection
  | .join => bindings.join
  | .filter => bindings.filter
  | .having => bindings.having
  | .order => bindings.order
  | .union => bindings.union

def set (bindings : Bindings) (bucket : Bucket) (values : List Value) : Bindings :=
  match bucket with
  | .projection => { bindings with projection := values }
  | .join => { bindings with join := values }
  | .filter => { bindings with filter := values }
  | .having => { bindings with having := values }
  | .order => { bindings with order := values }
  | .union => { bindings with union := values }

def extend (bindings : Bindings) (bucket : Bucket) (values : List Value) : Bindings :=
  bindings.set bucket (bindings.get bucket ++ values)

def add (bindings : Bindings) (bucket : Bucket) (value : Value) : Bindings :=
  bindings.extend bucket [value]

def merge (bindings other : Bindings) : Bindings where
  projection := bindings.projection ++ other.projection
  join := bindings.join ++ other.join
  filter := bindings.filter ++ other.filter
  having := bindings.having ++ other.having
  order := bindings.order ++ other.order
  union := bindings.union ++ other.union

def collect (bindings : Bindings) (buckets : List Bucket) : List Value :=
  buckets.flatMap bindings.get

/-- All values in the order of the markers of a select statement. -/
def flatten (bindings : Bindings) : List Value :=
  bindings.collect Bucket.all

def size (bindings : Bindings) : Nat :=
  bindings.flatten.length

def isEmpty (bindings : Bindings) : Bool :=
  Bucket.all.all fun bucket => (bindings.get bucket).isEmpty

end Bindings

end SqlToolkit
