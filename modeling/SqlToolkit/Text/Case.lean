import SqlToolkit.Text.Case.Table
/-!
Small and capital letters: the ASCII mappings, which leave all other characters alone, and the full
Unicode mappings of a text.
-/

namespace SqlToolkit.Text

def asciiLower (text : String) : String :=
  String.ofList (text.toList.map Char.toLower)

def asciiUpper (text : String) : String :=
  String.ofList (text.toList.map Char.toUpper)

def asciiEq (left right : String) : Bool :=
  asciiLower left == asciiLower right

def inRanges (ranges : List (Nat × Nat)) (c : Char) : Bool :=
  ranges.any fun range => range.1 ≤ c.toNat && c.toNat ≤ range.2

def shiftBy (runs : List CaseRun) (c : Char) : Char :=
  match runs.find? (·.covers c.toNat) with
  | some run => Char.ofNat (Int.toNat (c.toNat + run.offset))
  | none => c

/-- The first character that is not skipped by a search for a neighbouring letter is cased. -/
def reachesCased (neighbours : List Char) : Bool :=
  match neighbours.dropWhile (inRanges caseIgnorableRanges) with
  | c :: _ => inRanges casedRanges c
  | [] => false

/-- The small form of a text whose characters before it are `before`, nearest first. A capital sigma
becomes a final sigma at the end of a word. -/
def lowerAfter (before : List Char) : List Char → List Char
  | [] => []
  | c :: rest =>
      let small :=
        if c.toNat = 0x3A3 then
          if reachesCased before && !reachesCased rest then [Char.ofNat 0x3C2] else [Char.ofNat 0x3C3]
        else if c.toNat = 0x130 then [Char.ofNat 0x69, Char.ofNat 0x307]
        else [shiftBy lowerRuns c]
      small ++ lowerAfter (c :: before) rest

def lower (text : String) : String :=
  String.ofList (lowerAfter [] text.toList)

def upperChar (c : Char) : List Char :=
  match upperExpansions.lookup c.toNat with
  | some codes => codes.map Char.ofNat
  | none => [shiftBy upperRuns c]

end SqlToolkit.Text
