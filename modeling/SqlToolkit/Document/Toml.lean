import SqlToolkit.Document.Toml.Scalar
import SqlToolkit.Document.Toml.Tables
import SqlToolkit.Document.Toml.Text
/-!
Configuration text in TOML: keys and values under table headers, read into a document. A text that
defines one key or one table twice is refused.
-/

namespace SqlToolkit.Toml

/-! ### Values -/

/-- A value without further values in it. -/
def readPlain? (text : List Char) : Option (Document × List Char) :=
  match text with
  | '\x22' :: _ => (readString? text).map fun (text, tail) => (.text text, tail)
  | '\x27' :: _ => (readString? text).map fun (text, tail) => (.text text, tail)
  | _ =>
      (readMoment? text).or ((scalar? (text.takeWhile isScalarChar)).map fun value =>
        (value, text.dropWhile isScalarChar))

mutual

/-- A value in which lists and tables lie in one another at most `nesting` deep. -/
def readValue? (nesting : Nat) : Nat → List Char → Option (Document × List Char)
  | 0, _ => none
  | fuel + 1, text =>
      match nesting, text with
      | nesting + 1, '[' :: rest =>
          (readItems? nesting fuel rest).map fun (items, tail) => (.list items, tail)
      | nesting + 1, '\x7b' :: rest =>
          match skipSpace rest with
          | '\x7d' :: tail => some (.table [], tail)
          | entries => do
              let (entries, tail) ← readEntries? nesting fuel [] entries
              some (.table (entriesDocument entries), tail)
      | _, text => readPlain? text

/-- The items of a list up to its closing bracket, over any number of lines. -/
def readItems? (nesting : Nat) : Nat → List Char → Option (List Document × List Char)
  | 0, _ => none
  | fuel + 1, text =>
      match skipBlank text with
      | ']' :: rest => some ([], rest)
      | other => do
          let (item, tail) ← readValue? nesting fuel other
          match skipBlank tail with
          | ',' :: rest =>
              let (items, tail) ← readItems? nesting fuel rest
              some (item :: items, tail)
          | ']' :: rest => some ([item], rest)
          | _ => none

/-- The entries of a table in braces, on one line. -/
def readEntries? (nesting : Nat) : Nat → Entries → List Char → Option (Entries × List Char)
  | 0, _, _ => none
  | fuel + 1, entries, text => do
      let (key, tail) ← readKey? text
      match tail with
      | '=' :: rest =>
          let (value, tail) ← readValue? nesting fuel (skipSpace rest)
          let entries ← setPath key value entries
          match skipSpace tail with
          | ',' :: rest => readEntries? nesting fuel entries rest
          | '\x7d' :: rest => some (entries, rest)
          | _ => none
      | _ => none

end

/-! ### Lines -/

/-- The text after a line that may end in blanks and a comment. -/
def finishLine? (text : List Char) : Option (List Char) :=
  match skipComment (skipSpace text) with
  | [] => some []
  | rest => lineEnd? rest

/-- The tables read so far, and the path of the one that keys go into. -/
structure Reading where
  root : Entries
  path : List String

def Reading.header (reading : Reading) (key : List String)
    (change : String → Entries → Option Entries) : Option Reading :=
  match key.getLast? with
  | none => none
  | some last => do
      let root ← underHeader (change last) key.dropLast reading.root
      some ⟨root, key⟩

/-- Reads headers and keys line by line. -/
def readLines? : Nat → Reading → List Char → Option Reading
  | 0, _, _ => none
  | fuel + 1, reading, text =>
      match skipBlank text with
      | [] => some reading
      | '[' :: '[' :: rest => do
          let (key, tail) ← readKey? rest
          match tail with
          | ']' :: ']' :: tail =>
              let reading ← reading.header key appendTable
              let tail ← finishLine? tail
              readLines? fuel reading tail
          | _ => none
      | '[' :: rest => do
          let (key, tail) ← readKey? rest
          match tail with
          | ']' :: tail =>
              let reading ← reading.header key openTable
              let tail ← finishLine? tail
              readLines? fuel reading tail
          | _ => none
      | line => do
          let (key, tail) ← readKey? line
          match tail with
          | '=' :: rest =>
              let (value, tail) ← readValue? nestingLimit (rest.length + 1) (skipSpace rest)
              let root ← underHeader (setPath key value) reading.path reading.root
              let tail ← finishLine? tail
              readLines? fuel { reading with root } tail
          | _ => none

/-- Reads a whole configuration text, which may start with a byte order mark. -/
def read? (text : String) : Option Document :=
  let chars := match text.toList with
    | '\ufeff' :: rest => rest
    | chars => chars
  (readLines? (chars.length + 1) ⟨[], []⟩ chars).map fun reading =>
    .table (entriesDocument reading.root)

end SqlToolkit.Toml
