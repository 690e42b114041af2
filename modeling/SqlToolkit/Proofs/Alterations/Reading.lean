import SqlToolkit.Proofs.Alterations.Tables
/-!
Reading the statements that alter a table, as SQLite does: names are in double quotes, and a list in
brackets is divided at the commas that stand outside of quotes and further brackets.
-/

namespace SqlToolkit.Reading

/-- What follows a text that has to come first. -/
def strip : List Char → List Char → Option (List Char)
  | [], text => some text
  | c :: rest, d :: text => if c = d then strip rest text else none
  | _ :: _, [] => none

/-- Puts a character in front of the first of some texts. -/
def putFirst (c : Char) : List (List Char) → List (List Char)
  | [] => [[c]]
  | text :: texts => (c :: text) :: texts

/-! Names -/

/-- Reads names from within the first of them on. -/
def namesFrom : List Char → Option (List (List Char) × List Char)
  | [] => none
  | '\x22' :: '\x22' :: rest =>
      (namesFrom rest).map fun (names, rest) => (putFirst '\x22' names, rest)
  | '\x22' :: ',' :: ' ' :: '\x22' :: rest =>
      (namesFrom rest).map fun (names, rest) => ([] :: names, rest)
  | '\x22' :: rest => some ([[]], rest)
  | c :: rest => (namesFrom rest).map fun (names, rest) => (putFirst c names, rest)

/-- Names with commas between them, and what follows them. -/
def names : List Char → Option (List String × List Char)
  | '\x22' :: rest => (namesFrom rest).map fun (names, rest) => (names.map String.ofList, rest)
  | _ => none

/-- One name, and what follows it. -/
def name (text : List Char) : Option (String × List Char) :=
  match names text with
  | some ([name], rest) => some (name, rest)
  | _ => none

/-! Declarations in brackets -/

/-- The quote that is open, and the number of open brackets. -/
structure Spot where
  quote : Option Char := none
  depth : Nat := 0
  deriving DecidableEq, Repr

/-- The spot behind a character; none if the character ends a declaration. -/
def Spot.next (spot : Spot) (c : Char) : Option Spot :=
  match spot.quote with
  | some quote => some (if c = quote then { spot with quote := none } else spot)
  | none =>
      if c = '\x27' ∨ c = '\x22' then some { spot with quote := some c }
      else if c = '(' then some { spot with depth := spot.depth + 1 }
      else if spot.depth = 0 ∧ (c = ',' ∨ c = ')') then none
      else if c = ')' then some { spot with depth := spot.depth - 1 }
      else some spot

/-- The spot behind a text that ends no declaration. -/
def Spot.behind (spot : Spot) (text : List Char) : Option Spot :=
  text.foldlM Spot.next spot

/-- The declarations up to the bracket that closes their list. -/
def declarations (spot : Spot) : List Char → Option (List (List Char))
  | [] => none
  | c :: rest =>
      match spot.next c with
      | some next => (declarations next rest).map (putFirst c)
      | none =>
          if c = ',' then (declarations {} rest).map ([] :: ·)
          else if rest = [] then some [[]]
          else none

def withoutBlank : List Char → List Char
  | ' ' :: rest => rest
  | text => text

/-- The columns and the primary key that are declared. -/
def table : List (List Char) → Option StoredTable
  | [] => some ⟨[], []⟩
  | declaration :: rest => do
      let table ← table rest
      match name declaration with
      | some (name, text) => some { table with columns := ⟨name, String.ofList text⟩ :: table.columns }
      | none =>
          match names (← strip "PRIMARY KEY (".toList declaration) with
          | some (key, [')']) => some { table with key := key ++ table.key }
          | _ => none

/-! Statements -/

variable (target copy : List Char)

def setting (text : List Char) : Option Alteration :=
  if text = "PRAGMA foreign_keys = OFF".toList ∨ text = "PRAGMA foreign_keys = ON".toList then
    some .setting
  else none

def addColumn (change : List Char) : Option Alteration := do
  let (name, declaration) ← name (← strip "ADD COLUMN ".toList change)
  some (.addColumn ⟨name, String.ofList declaration⟩)

def dropColumn (change : List Char) : Option Alteration := do
  match name (← strip "DROP COLUMN ".toList change) with
  | some (name, []) => some (.dropColumn name)
  | _ => none

def renameColumn (change : List Char) : Option Alteration := do
  let (column, rest) ← name (← strip "RENAME COLUMN ".toList change)
  match name (← strip " TO ".toList rest) with
  | some (name, []) => some (.renameColumn column name)
  | _ => none

def alterTable (text : List Char) : Option Alteration := do
  let change ← strip [' '] (← strip target (← strip "ALTER TABLE ".toList text))
  addColumn change <|> dropColumn change <|> renameColumn change

def copyAway (text : List Char) : Option Alteration := do
  let rest ← strip copy (← strip "CREATE TEMPORARY TABLE ".toList text)
  let (columns, rest) ← names (← strip " AS SELECT ".toList rest)
  if rest = " FROM ".toList ++ target then some (.copyAway columns) else none

def dropTable (text : List Char) : Option Alteration := do
  let rest ← strip "DROP TABLE ".toList text
  if rest = target then some .dropTable else if rest = copy then some .dropCopy else none

def createTable (text : List Char) : Option Alteration := do
  let rest ← strip " (".toList (← strip target (← strip "CREATE TABLE ".toList text))
  some (.createTable (← table ((← declarations {} rest).map withoutBlank)))

def copyBack (text : List Char) : Option Alteration := do
  let rest ← strip " (".toList (← strip target (← strip "INSERT INTO ".toList text))
  let (into, rest) ← names rest
  let (source, rest) ← names (← strip ") SELECT ".toList rest)
  if rest = " FROM ".toList ++ copy then some (.copyBack into source) else none

/-- A statement on the table that is called `target`, or on its copy. -/
def alteration (text : List Char) : Option Alteration :=
  setting text <|> alterTable target text <|> copyAway target copy text <|>
    dropTable target copy text <|> createTable target text <|> copyBack target copy text

end SqlToolkit.Reading

namespace SqlToolkit.Storage

/-- Executes statements on a table and on its copy, which are called by these texts. -/
def execute (target copy : String) (storage : Storage) (texts : List String) : Option Storage :=
  texts.foldlM (fun storage text =>
    (Reading.alteration target.toList copy.toList text.toList).bind storage.perform) storage

end SqlToolkit.Storage
