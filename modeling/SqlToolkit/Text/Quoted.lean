import SqlToolkit.Text.Case
import SqlToolkit.Text.Quoted.Table
/-!
Quoted text: a quote inside the text is written twice (`enclosed`), or every character without a
glyph is spelled by an escape (`escaped`).
-/

namespace SqlToolkit.Text

/-- Every quote is written twice. -/
def doubled (quote : Char) : List Char → List Char
  | [] => []
  | c :: rest => if c = quote then quote :: quote :: doubled quote rest else c :: doubled quote rest

/-- The text between two quotes, with the quotes inside it doubled. -/
def enclosed (quote : Char) (text : String) : String :=
  String.ofList (quote :: doubled quote text.toList ++ [quote])

/-- A code point in hexadecimal, without leading zeros, as in `\u{1f}`. -/
def codePointEscape (c : Char) : List Char :=
  '\\' :: 'u' :: '\x7b' :: Nat.toDigits 16 c.toNat ++ ['\x7d']

def escapedChar (c : Char) : List Char :=
  if c = '\x22' then ['\\', '\x22']
  else if c = '\\' then ['\\', '\\']
  else if c = '\n' then ['\\', 'n']
  else if c = '\r' then ['\\', 'r']
  else if c = '\t' then ['\\', 't']
  else if c = '\x00' then ['\\', '0']
  else if inRanges glyphlessRanges c then codePointEscape c
  else [c]

/-- The text between double quotes, on one line and with visible characters only. -/
def escaped (text : String) : String :=
  String.ofList ('\x22' :: text.toList.flatMap escapedChar ++ ['\x22'])

end SqlToolkit.Text
