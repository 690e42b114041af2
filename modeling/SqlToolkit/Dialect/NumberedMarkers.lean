/-!
Numbered markers: PostgreSQL counts the markers of a statement, where the other databases write a
question mark for each.
-/

namespace SqlToolkit

/-- Where a statement is being read: outside of quotes, or within the quote that opened last. -/
abbrev OpenQuote := Option Char

/-- A quote is closed by its own character only. -/
def OpenQuote.after (quote : OpenQuote) (c : Char) : OpenQuote :=
  match quote with
  | some opened => if c = opened then none else quote
  | none => if c = '\x27' ∨ c = '\x22' then some c else none

/-- Numbers the question marks outside of quotes, from `next` on. -/
def numberMarkersFrom (quote : OpenQuote) (next : Nat) : List Char → List Char
  | [] => []
  | c :: rest =>
      if quote = none ∧ c = '?' then
        '$' :: Nat.toDigits 10 next ++ numberMarkersFrom none (next + 1) rest
      else c :: numberMarkersFrom (quote.after c) next rest

/-- Numbers the question marks of a statement from one, but not those in quotes. -/
def numberMarkers (sql : String) : String :=
  String.ofList (numberMarkersFrom none 1 sql.toList)

end SqlToolkit
