/-!
Search for one text in another.
-/

namespace SqlToolkit.Text

def contains (needle : List Char) : List Char → Bool
  | [] => needle.isEmpty
  | c :: rest => needle.isPrefixOf (c :: rest) || contains needle rest

/-- The number of characters before the first occurrence. -/
def place? (needle : List Char) : List Char → Option Nat
  | [] => if needle.isEmpty then some 0 else none
  | c :: rest =>
      if needle.isPrefixOf (c :: rest) then some 0 else (place? needle rest).map (· + 1)

end SqlToolkit.Text
