import SqlToolkit.Proofs.Reading.Statements
/-!
A reader of conditions. It knows the quotes, the operators and the date functions of the dialect,
takes whatever stands in parentheses for one unit, and binds AND tighter than OR, except for the AND
that belongs to a BETWEEN.
-/

namespace SqlToolkit

/-- A condition as it is read from a statement. Values are markers, and selects are not opened. -/
inductive Condition where
  | compare (column operator : String)
  | compareColumns (first operator second : String)
  | compareQuery (column operator : String)
  | compareDate (part : DatePart) (column operator : String)
  | inList (negated : Bool) (column : String) (count : Nat)
  | inQuery (negated : Bool) (column : String)
  | isNull (negated : Bool) (column : String)
  | between (negated : Bool) (column : String)
  | exists (negated : Bool)
  | constant (holds : Bool)
  /-- Conditions in parentheses: alternatives, each of conditions that hold together. -/
  | group (alternatives : List (List Condition))
  | raw (sql : String)

/-! Conditions in a row -/

section Rows

variable {α : Type}

/-- What is joined by AND to what stands in front, and the alternatives behind it. -/
def gather : List (Connective × α) → List α × List (List α)
  | [] => ([], [])
  | (.and, next) :: rest => (next :: (gather rest).1, (gather rest).2)
  | (.or, next) :: rest => ([], (next :: (gather rest).1) :: (gather rest).2)

/-- Alternatives of conditions that hold together; the connective of the first is not looked at. -/
def disjuncts : List (Connective × α) → List (List α)
  | [] => []
  | (_, first) :: rest => (first :: (gather rest).1) :: (gather rest).2

/-- The alternatives in a row, with OR in front of each and AND within them. -/
def connected (alternatives : List (List α)) : List (Connective × α) :=
  alternatives.flatMap fun
    | [] => []
    | first :: rest => (.or, first) :: rest.map fun next => (.and, next)

theorem connected_gather (rest : List (Connective × α)) :
    ((gather rest).1.map fun next => (.and, next)) ++ connected (gather rest).2 = rest := by
  induction rest with
  | nil => rfl
  | cons next rest ih =>
      obtain ⟨connective, next⟩ := next
      cases connective with
      | and => exact congrArg (List.cons (Connective.and, next)) ih
      | or => exact congrArg (List.cons (Connective.or, next)) ih

/-- A list whose first connective, which is not written, is set aside. -/
def opened : List (Connective × α) → List (Connective × α)
  | [] => []
  | (_, first) :: rest => (.or, first) :: rest

/-- Alternatives lose no connective but the one that is not written. -/
theorem connected_disjuncts (conditions : List (Connective × α)) :
    connected (disjuncts conditions) = opened conditions := by
  cases conditions with
  | nil => rfl
  | cons first rest => exact congrArg (List.cons (Connective.or, first.2)) (connected_gather rest)

end Rows

/-! What the predicates of a query are to be read as -/

mutual

def Predicate.condition : Predicate → Condition
  | .compare column operator _ => .compare column.text operator
  | .compareColumns first operator second => .compareColumns first.text operator second.text
  | .group members => .group (disjuncts (Clause.conditions members))
  | .compareQuery column operator _ => .compareQuery column.text operator
  | .inList negated column operands =>
      if operands = [] then .constant negated else .inList negated column.text operands.length
  | .inQuery negated column _ => .inQuery negated column.text
  | .isNull negated column => .isNull negated column.text
  | .between negated column _ _ => .between negated column.text
  | .exists negated _ => .exists negated
  | .compareDate part column operator _ => .compareDate part column.text operator
  | .raw sql => .raw sql

def Clause.conditions : List Clause → List (Connective × Condition)
  | [] => []
  | ⟨connective, predicate⟩ :: rest =>
      (connective, predicate.condition) :: Clause.conditions rest

end

/-! Names -/

/-- A word of letters, as keywords and operators are made of. -/
def Tree.isTerm : Tree → Bool
  | .leaf (.word letters) => letters.all Char.isAlpha
  | _ => false

def Tree.text : Tree → String
  | .leaf (.word letters) => String.ofList letters
  | _ => ""

namespace Dialect

section Reader

variable (dialect : Dialect)

/-- A quoted name or a star. -/
def readSegment : Tree → Option String
  | .leaf (.quoted quote content) =>
      if quote = dialect.vendor.quote then some (String.ofList content) else none
  | .leaf (.sign ['*']) => some "*"
  | _ => none

/-- Segments with dots between them, and what stands behind them. -/
def readPath : List Tree → Option (List String × List Tree)
  | [] => none
  | first :: .leaf (.mark '.') :: rest => do
      let segment ← dialect.readSegment first
      let (segments, behind) ← readPath rest
      return (segment :: segments, behind)
  | first :: rest => do
      let segment ← dialect.readSegment first
      return ([segment], rest)

/-- The name of a column, without the prefix of the table that a dotted name begins with. -/
def columnName : List String → Option String
  | [] => none
  | [single] => some single
  | table :: rest =>
      if dialect.tablePrefix.toList.isPrefixOf table.toList then
        some (".".intercalate
          (String.ofList (table.toList.drop dialect.tablePrefix.toList.length) :: rest))
      else none

def readColumn (trees : List Tree) : Option (String × List Tree) := do
  let (segments, rest) ← dialect.readPath trees
  let name ← dialect.columnName segments
  return (name, rest)

/-! Relations -/

/-- What a relation is about: a column or a part of the date in it. -/
inductive Subject where
  | column (name : String)
  | datePart (part : DatePart) (name : String)

def findPart (matching : DatePart → Bool) : Option DatePart :=
  [DatePart.date, .day, .month, .year].find? matching

/-- The part of a date that a function takes, and the column in its parentheses. -/
def readFunction (name : Tree) (inner : List Tree) : Option (DatePart × List Tree) :=
  match dialect.vendor, inner with
  | .sqlite, .leaf (.quoted '\x27' format) :: .leaf (.mark ',') :: column =>
      if name.isWord "strftime" then
        (findPart fun part => (datePartFormat part).toList = format).map (·, column)
      else none
  | .mysql, column => (findPart fun part => name.isWord (datePartName part)).map (·, column)
  | .postgres, part :: source :: column =>
      if name.isWord "extract" ∧ source.isWord "from" then
        (findPart fun known => part.isWord (datePartName known)).map (·, column)
      else none
  | _, _ => none

/-- A column that PostgreSQL may take the date of. -/
def readCast (column : String) (rest : List Tree) : Option (Subject × List Tree) :=
  match dialect.vendor, rest with
  | .postgres, .leaf (.mark ':') :: .leaf (.mark ':') :: kind :: rest =>
      if kind.isWord "date" then some (.datePart .date column, rest) else none
  | _, _ => some (.column column, rest)

def readSubject : List Tree → Option (Subject × List Tree)
  | name :: .parens inner :: rest => do
      let (part, column) ← dialect.readFunction name inner
      match ← dialect.readColumn column with
      | (column, []) => return (.datePart part column, rest)
      | _ => none
  | trees => do
      let (column, rest) ← dialect.readColumn trees
      dialect.readCast column rest

/-- Keywords or an operator, and what stands behind them. -/
def readPhrase : List Tree → String × List Tree
  | .leaf (.sign sign) :: rest => (String.ofList sign, rest)
  | trees => (" ".intercalate ((trees.takeWhile Tree.isTerm).map Tree.text),
      trees.dropWhile Tree.isTerm)

/-- What may stand between a column and the rest of a condition, apart from operators. -/
inductive Keyword where
  | null (negated : Bool)
  | member (negated : Bool)
  | range (negated : Bool)
  deriving DecidableEq

def Keyword.words : Keyword → List String
  | null negated => if negated then ["IS", "NOT", "NULL"] else ["IS", "NULL"]
  | member negated => if negated then ["NOT", "IN"] else ["IN"]
  | range negated => if negated then ["NOT", "BETWEEN"] else ["BETWEEN"]

def keyword? (phrase : String) : Option Keyword :=
  [Keyword.null false, .null true, .member false, .member true, .range false, .range true].find?
    fun keyword => Text.asciiEq (" ".intercalate keyword.words) phrase

def isParameter (tree : Tree) : Bool :=
  match tree with
  | .leaf (.word letters) => letters = dialect.marker.text.toList
  | _ => false

def countParameters : List Tree → Option Nat
  | [] => none
  | [last] => if dialect.isParameter last then some 1 else none
  | first :: .leaf (.mark ',') :: rest =>
      if dialect.isParameter first then (countParameters rest).map (· + 1) else none
  | _ => none

/-- A select, or one that begins with another in parentheses. -/
def isSelect : List Tree → Bool
  | .parens _ :: _ => true
  | first :: _ => first.isWord "select"
  | [] => false

def readMembers (negated : Bool) (column : String) (inner : List Tree) : Option Condition :=
  if isSelect inner then some (.inQuery negated column)
  else (dialect.countParameters inner).map (.inList negated column)

/-- What a column is compared with. -/
def readComparison (column operator : String) : List Tree → Option Condition
  | [.parens inner] => if isSelect inner then some (.compareQuery column operator) else none
  | [.leaf (.word letters)] =>
      if dialect.isParameter (.leaf (.word letters)) then some (.compare column operator) else none
  | right =>
      match dialect.readColumn right with
      | some (second, []) => some (.compareColumns column operator second)
      | _ => none

def readKeyword (column : String) : Keyword → List Tree → Option Condition
  | .null negated, [] => some (.isNull negated column)
  | .member negated, [.parens inner] => dialect.readMembers negated column inner
  | .range negated, [low, connective, high] =>
      if dialect.isParameter low ∧ connective.isWord "and" ∧ dialect.isParameter high then
        some (.between negated column)
      else none
  | _, _ => none

def readRelation (subject : Subject) (phrase : String) (right : List Tree) : Option Condition :=
  match subject, keyword? phrase with
  | .column column, some keyword => dialect.readKeyword column keyword right
  | .column column, none =>
      if dialect.vendor.knowsOperator phrase then dialect.readComparison column phrase right
      else none
  | .datePart part column, none =>
      match right with
      | [single] =>
          if dialect.vendor.knowsOperator phrase ∧ dialect.isParameter single then
            some (.compareDate part column phrase)
          else none
      | _ => none
  | .datePart _ _, some _ => none

def readConstant : List Tree → Option Condition
  | [.leaf (.word digit), .leaf (.sign ['=']), .leaf (.word ['1'])] =>
      if digit = ['0'] then some (.constant false)
      else if digit = ['1'] then some (.constant true)
      else none
  | _ => none

def readExistence : List Tree → Option Condition
  | [word, .parens inner] =>
      if word.isWord "exists" ∧ isSelect inner then some (.exists false) else none
  | [negation, word, .parens inner] =>
      if negation.isWord "not" ∧ word.isWord "exists" ∧ isSelect inner then some (.exists true)
      else none
  | _ => none

def readStatement (trees : List Tree) : Option Condition := do
  let (subject, rest) ← dialect.readSubject trees
  let (phrase, right) := readPhrase rest
  dialect.readRelation subject phrase right

/-- A condition that is not a group. -/
def readSimple (trees : List Tree) : Option Condition :=
  (readConstant trees).or ((readExistence trees).or (dialect.readStatement trees))

/-! Lists of conditions. What stands in parentheses is read first, and the reading is noted beside
the tree. -/

abbrev Note : Type := Tree × Option (List (List Condition))

/-- Whether a BETWEEN waits for its AND behind a tree of a condition. A connective between two
conditions is none of them. -/
def awaits (ranging : Bool) (tree : Tree) : Option Bool :=
  if tree.isWord "between" then some true
  else if tree.isWord "or" then none
  else if tree.isWord "and" then (if ranging then some false else none)
  else some ranging

/-- The first condition of a list and those behind it, each with the connective in front of it. -/
def splitChain (ranging : Bool) : List Note → List Note × List (Connective × List Note)
  | [] => ([], [])
  | note :: rest =>
      match awaits ranging note.1 with
      | some ranging => (note :: (splitChain ranging rest).1, (splitChain ranging rest).2)
      | none =>
          let connective := if note.1.isWord "or" then .or else .and
          ([], (connective, (splitChain false rest).1) :: (splitChain false rest).2)

def readItem : List Note → Option Condition
  | [(.parens _, reading)] => reading.map .group
  | item => dialect.readSimple (item.map Prod.fst)

def readChain (notes : List Note) : Option (List (List Condition)) := do
  let (first, rest) := splitChain false notes
  let first ← dialect.readItem first
  let rest ← rest.mapM fun (connective, item) => do return (connective, ← dialect.readItem item)
  return disjuncts ((.and, first) :: rest)

mutual

/-- What a tree in parentheses reads as. -/
def noted (dialect : Dialect) : Tree → Option (List (List Condition))
  | .leaf _ => none
  | .parens inner => dialect.readChain (dialect.notes inner)

def notes (dialect : Dialect) : List Tree → List Note
  | [] => []
  | first :: rest => (first, dialect.noted first) :: dialect.notes rest

end

/-! Clauses of a statement -/

/-- The first select of a statement, without the unions behind it. -/
def firstSelect : List Tree → List Tree
  | .parens inner :: _ => inner
  | trees => trees.takeWhile fun tree => !tree.isWord "union"

/-- What stands behind a keyword up to the next clause. -/
def clauseAfter? (word : String) (trees : List Tree) : Option (List Tree) :=
  match trees.dropWhile fun tree => !tree.isWord word with
  | [] => none
  | _ :: rest => some (rest.takeWhile fun tree => clauseWords.all fun word => !tree.isWord word)

/-- The conditions of a clause; a clause that is left out has none. -/
def readClause (word text : String) : Option (List (List Condition)) := do
  let trees ← dialect.vendor.parse text
  match clauseAfter? word (firstSelect trees) with
  | none => return []
  | some trees => dialect.readChain (dialect.notes trees)

end Reader

end Dialect

end SqlToolkit
