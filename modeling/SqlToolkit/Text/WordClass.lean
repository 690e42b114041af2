import SqlToolkit.Text.Case
import SqlToolkit.Text.WordClass.Table
/-!
Decimal digits and word characters of every script.
-/

namespace SqlToolkit.Text

def isDigit (c : Char) : Bool :=
  inRanges digitRanges c

/-- Letters, marks, digits, connectors such as the underscore, and the two joiners. -/
def isWordChar (c : Char) : Bool :=
  inRanges wordRanges c

end SqlToolkit.Text
