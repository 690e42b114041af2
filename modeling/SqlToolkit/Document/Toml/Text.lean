/-!
The characters of TOML: blanks, line ends and comments, strings in their four forms, and keys.
-/

namespace SqlToolkit.Toml

/-! ### Characters and blanks -/

def isSpace (c : Char) : Bool :=
  c = ' ' || c = '\t'

def skipSpace (text : List Char) : List Char :=
  text.dropWhile isSpace

def lineEnd? : List Char → Option (List Char)
  | '\n' :: rest => some rest
  | '\r' :: '\n' :: rest => some rest
  | _ => none

/-- Controls other than the tab may stand nowhere. -/
def isControl (c : Char) : Bool :=
  (c.toNat < 0x20 && c ≠ '\t') || c.toNat = 0x7F

/-- Skips a comment up to its line end. -/
def skipComment (text : List Char) : List Char :=
  match text with
  | '#' :: rest => rest.dropWhile fun c => !isControl c
  | _ => text

def skipLines : Nat → List Char → List Char
  | 0, text => text
  | fuel + 1, text =>
      let rest := skipComment (skipSpace text)
      match lineEnd? rest with
      | some tail => skipLines fuel tail
      | none => rest

def skipBlank (text : List Char) : List Char :=
  skipLines (text.length + 1) text

/-! ### Strings -/

def readHex? (count : Nat) (text : List Char) : Option (Nat × List Char) :=
  match count with
  | 0 => some (0, text)
  | count + 1 => do
      let (value, tail) ← readHex? count text
      match tail with
      | [] => none
      | c :: rest =>
          if c.isDigit then some (value * 16 + (c.toNat - 48), rest)
          else if 'a' ≤ c ∧ c ≤ 'f' then some (value * 16 + (c.toNat - 87), rest)
          else if 'A' ≤ c ∧ c ≤ 'F' then some (value * 16 + (c.toNat - 55), rest)
          else none

def isScalar (code : Nat) : Bool :=
  code < 0xD800 || (0xE000 ≤ code && code < 0x110000)

/-- The character of an escape after its backslash. -/
def readEscape? : List Char → Option (Char × List Char)
  | 'b' :: rest => some ('\x08', rest)
  | 't' :: rest => some ('\t', rest)
  | 'n' :: rest => some ('\n', rest)
  | 'f' :: rest => some ('\x0c', rest)
  | 'r' :: rest => some ('\r', rest)
  | '\x22' :: rest => some ('\x22', rest)
  | '\\' :: rest => some ('\\', rest)
  | 'u' :: rest => do
      let (code, tail) ← readHex? 4 rest
      if isScalar code then some (Char.ofNat code, tail) else none
  | 'U' :: rest => do
      let (code, tail) ← readHex? 8 rest
      if isScalar code then some (Char.ofNat code, tail) else none
  | _ => none

/-- The rest of a string on one line, after its opening quote. -/
def readLineString? (quote : Char) : Nat → List Char → Option (List Char × List Char)
  | 0, _ => none
  | _ + 1, [] => none
  | fuel + 1, c :: rest =>
      if c = quote then some ([], rest)
      else if c = '\\' ∧ quote = '\x22' then do
        let (c, tail) ← readEscape? rest
        let (text, tail) ← readLineString? quote fuel tail
        some (c :: text, tail)
      else if isControl c then none
      else do
        let (text, tail) ← readLineString? quote fuel rest
        some (c :: text, tail)

/-- Skips blanks and line ends; a carriage return counts only in front of a line feed. -/
def skipLineEnds : List Char → List Char
  | '\r' :: '\n' :: rest => skipLineEnds rest
  | c :: rest => if isSpace c || c = '\n' then skipLineEnds rest else c :: rest
  | [] => []

/-- Blanks and line ends after a backslash that ends a line. -/
def skipFolded (text : List Char) : Option (List Char) :=
  (lineEnd? (skipSpace text)).map skipLineEnds

/-- The rest of a string over several lines, after its three opening quotes. Up to two quotes may
stand right before the three closing ones. -/
def readBlockString? (quote : Char) : Nat → List Char → Option (List Char × List Char)
  | 0, _ => none
  | _ + 1, [] => none
  | fuel + 1, c :: rest =>
      if c = quote then
        match rest with
        | b :: d :: tail =>
            if b = quote ∧ d = quote then
              match tail with
              | e :: f :: more =>
                  if e = quote ∧ f = quote then some ([quote, quote], more)
                  else if e = quote then some ([quote], f :: more)
                  else some ([], tail)
              | [e] => if e = quote then some ([quote], []) else some ([], tail)
              | [] => some ([], [])
            else do
              let (text, tail) ← readBlockString? quote fuel rest
              some (c :: text, tail)
        | _ => none
      else if c = '\\' ∧ quote = '\x22' then
        match skipFolded rest with
        | some tail => readBlockString? quote fuel tail
        | none => do
            let (c, tail) ← readEscape? rest
            let (text, tail) ← readBlockString? quote fuel tail
            some (c :: text, tail)
      else
        match lineEnd? (c :: rest) with
        | some tail => do
            let (text, tail) ← readBlockString? quote fuel tail
            some ('\n' :: text, tail)
        | none =>
            if isControl c then none
            else do
              let (text, tail) ← readBlockString? quote fuel rest
              some (c :: text, tail)

/-- A string in any of its four forms. -/
def readString? (text : List Char) : Option (String × List Char) :=
  match text with
  | quote :: rest =>
      if quote = '\x22' ∨ quote = '\x27' then
        let read := match rest with
          | b :: c :: tail =>
              if b = quote ∧ c = quote then
                readBlockString? quote (tail.length + 1) ((lineEnd? tail).getD tail)
              else readLineString? quote (rest.length + 1) rest
          | _ => readLineString? quote (rest.length + 1) rest
        read.map fun (chars, tail) => (String.ofList chars, tail)
      else none
  | [] => none

/-! ### Keys -/

def isBareKeyChar (c : Char) : Bool :=
  c.isAlphanum || c = '_' || c = '-'

/-- One part of a key: bare, or a string on one line. -/
def readKeyPart? (text : List Char) : Option (String × List Char) :=
  match text with
  | '\x22' :: rest =>
      (readLineString? '\x22' (rest.length + 1) rest).map fun (c, tail) => (String.ofList c, tail)
  | '\x27' :: rest =>
      (readLineString? '\x27' (rest.length + 1) rest).map fun (c, tail) => (String.ofList c, tail)
  | _ =>
      let bare := text.takeWhile isBareKeyChar
      if bare.isEmpty then none else some (String.ofList bare, text.dropWhile isBareKeyChar)

/-- The parts of a dotted key, with blanks around its dots. -/
def readParts? : Nat → List Char → Option (List String × List Char)
  | 0, _ => none
  | fuel + 1, text => do
      let (part, tail) ← readKeyPart? (skipSpace text)
      match skipSpace tail with
      | '.' :: rest =>
          let (parts, tail) ← readParts? fuel rest
          some (part :: parts, tail)
      | other => some ([part], other)

/-- The largest number of parts of a key, and of lists and tables in braces in one another. -/
def nestingLimit : Nat := 79

def readKey? : List Char → Option (List String × List Char) :=
  readParts? nestingLimit

end SqlToolkit.Toml
