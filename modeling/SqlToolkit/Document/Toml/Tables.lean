import SqlToolkit.Document.Basic
/-!
Tables under construction. Headers and dotted keys may lead through tables that are there already;
how a table came to be decides what may extend it.
-/

namespace SqlToolkit.Toml

/-- How a table came to be, which decides what may extend it. -/
inductive Origin where
  /-- Mentioned only on the way to a table below it. -/
  | implied
  /-- Opened by a header of its own. -/
  | header
  /-- Made by the leading parts of a dotted key. -/
  | dotted
  deriving DecidableEq

/-- A document under construction. -/
inductive Node where
  | value (document : Document)
  | table (origin : Origin) (entries : List (String × Node))
  | tables (items : List (List (String × Node)))

abbrev Entries := List (String × Node)

def putNode (key : String) (node : Node) : Entries → Entries
  | [] => [(key, node)]
  | (other, old) :: rest =>
      if key = other then (key, node) :: rest else (other, old) :: putNode key node rest

/-- Changes the table that the keys of a header lead to, and makes the missing ones. A list of tables
is entered at its last one. -/
def underHeader (change : Entries → Option Entries) : List String → Entries → Option Entries
  | [], entries => change entries
  | key :: path, entries =>
      match entries.lookup key with
      | none => do
          let inner ← underHeader change path []
          some (putNode key (.table .implied inner) entries)
      | some (.table origin inner) => do
          let inner ← underHeader change path inner
          some (putNode key (.table origin inner) entries)
      | some (.tables items) =>
          match items.getLast? with
          | none => none
          | some last => do
              let last ← underHeader change path last
              some (putNode key (.tables (items.dropLast ++ [last])) entries)
      | some (.value _) => none

def openTable (key : String) (entries : Entries) : Option Entries :=
  match entries.lookup key with
  | none => some (putNode key (.table .header []) entries)
  | some (.table .implied inner) => some (putNode key (.table .header inner) entries)
  | some _ => none

def appendTable (key : String) (entries : Entries) : Option Entries :=
  match entries.lookup key with
  | none => some (putNode key (.tables [[]]) entries)
  | some (.tables items) => some (putNode key (.tables (items ++ [[]])) entries)
  | some _ => none

/-- Sets a key that has no value yet. -/
def setKey (key : String) (value : Document) (entries : Entries) : Option Entries :=
  match entries.lookup key with
  | none => some (putNode key (.value value) entries)
  | some _ => none

/-- Sets a key in the table that the leading parts of a dotted key lead to, and makes the missing
ones. The way may go through every table but those with a header of their own, and enters a list of
tables at its last one; it ends at a table that was made by dotted keys. -/
def setDotted (key : String) (value : Document) : List String → Entries → Option Entries
  | [], entries => setKey key value entries
  | part :: path, entries =>
      match entries.lookup part with
      | none => do
          let inner ← setDotted key value path []
          some (putNode part (.table .dotted inner) entries)
      | some (.table origin inner) =>
          if origin = .header ∨ (path = [] ∧ origin ≠ .dotted) then none
          else do
            let inner ← setDotted key value path inner
            some (putNode part (.table origin inner) entries)
      | some (.tables items) =>
          match items.getLast? with
          | none => none
          | some last =>
              if path = [] then none
              else do
                let last ← setDotted key value path last
                some (putNode part (.tables (items.dropLast ++ [last])) entries)
      | some (.value _) => none

def setPath (path : List String) (value : Document) (entries : Entries) : Option Entries :=
  match path.getLast? with
  | none => none
  | some key => setDotted key value path.dropLast entries

mutual

def Node.document : Node → Document
  | .value document => document
  | .table _ entries => .table (entriesDocument entries)
  | .tables items => .list (tablesDocument items)

def entriesDocument : List (String × Node) → List (String × Document)
  | [] => []
  | (key, node) :: rest => Document.put key node.document (entriesDocument rest)

def tablesDocument : List (List (String × Node)) → List Document
  | [] => []
  | entries :: rest => .table (entriesDocument entries) :: tablesDocument rest

end

end SqlToolkit.Toml
