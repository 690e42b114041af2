import SqlToolkit.Dialect.NumberedMarkers
import SqlToolkit.Query.Bindings
/-!
The markers of a statement as a database counts them: those that stand outside of quotes. A text is
read into pieces, and values are put into the places of its markers from left to right.
-/

namespace SqlToolkit

/-- A character of a text, or a place in it that is kept for something else. -/
inductive Piece (α : Type) where
  | char (c : Char)
  | slot (content : α)
  deriving DecidableEq, Repr

namespace Piece

variable {α : Type}

def content? : Piece α → Option α
  | char _ => none
  | slot content => some content

def blank : Piece α → Piece Unit
  | char c => char c
  | slot _ => slot ()

end Piece

/-- A text with its markers found but not filled. -/
abbrev Pattern := List (Piece Unit)

/-- A text with values in the places that are kept for them. -/
abbrev Filled := List (Piece Value)

namespace Pattern

def slots (pattern : Pattern) : Nat :=
  (pattern.filterMap Piece.content?).length

/-- Puts values into the slots from left to right. Each slot takes one value, and no value may be
left over. -/
def fill : Pattern → List Value → Option Filled
  | [], [] => some []
  | [], _ :: _ => none
  | .char c :: rest, values => (fill rest values).map (.char c :: ·)
  | .slot _ :: _, [] => none
  | .slot _ :: rest, value :: values => (fill rest values).map (.slot value :: ·)

end Pattern

namespace Filled

def ofText (text : String) : Filled :=
  text.toList.map .char

def values (filled : Filled) : List Value :=
  filled.filterMap Piece.content?

def pattern (filled : Filled) : Pattern :=
  filled.map Piece.blank

end Filled

namespace Dialect

/-- The characters that a quoted text is enclosed in: those of SQL, and the one around names. -/
def isQuote (dialect : Dialect) (c : Char) : Bool :=
  c = '\x27' || c = '\x22' || c = dialect.vendor.quote

/-- A quote is closed by its own character only. -/
def quoteAfter (dialect : Dialect) : OpenQuote → Char → OpenQuote
  | some opened, c => if c = opened then none else some opened
  | none, c => if dialect.isQuote c then some c else none

/-- The quote that is open behind a text, if it is read from within `quote` on. -/
def quoteBehind (dialect : Dialect) (quote : OpenQuote) (text : List Char) : OpenQuote :=
  text.foldl dialect.quoteAfter quote

/-- The pieces of a text that is read from within `quote` on: a marker outside of quotes is a slot,
and all else is text. -/
def pieces (dialect : Dialect) (quote : OpenQuote) : List Char → Pattern
  | [] => []
  | '%' :: 's' :: rest =>
      if quote = none ∧ dialect.marker = .percent then .slot () :: dialect.pieces none rest
      else .char '%' :: .char 's' :: dialect.pieces (dialect.quoteBehind quote ['%', 's']) rest
  | c :: rest =>
      if quote = none ∧ dialect.marker = .question ∧ c = '?' then
        .slot () :: dialect.pieces none rest
      else .char c :: dialect.pieces (dialect.quoteAfter quote c) rest

/-- Puts values from left to right into the markers of a statement that stand outside of quotes. -/
def fill (dialect : Dialect) (sql : String) (values : List Value) : Option Filled :=
  (dialect.pieces none sql.toList).fill values

/-- A fragment is supplied with values if its quotes are closed and it has one marker outside of
them for each value. -/
def Supplied (dialect : Dialect) (sql : String) (values : List Value) : Prop :=
  dialect.quoteBehind none sql.toList = none ∧
    (dialect.pieces none sql.toList).slots = values.length

instance (dialect : Dialect) (sql : String) (values : List Value) :
    Decidable (dialect.Supplied sql values) :=
  inferInstanceAs (Decidable (_ ∧ _))

end Dialect

end SqlToolkit
