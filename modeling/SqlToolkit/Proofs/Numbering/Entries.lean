import SqlToolkit.Proofs.Numbering.Lexemes
import SqlToolkit.Proofs.Reading.Chains
/-!
The entries of a statement: the names that it mentions and the places where it takes a value, in the
order of its text. Whatever else a clause is made of, its entries are those of its parts.
-/

namespace SqlToolkit

inductive Entry (α : Type) where
  | name (name : String)
  | parameter (marker : α)
  deriving DecidableEq, Repr

namespace Entry

variable {α : Type}

def blank : Entry α → Entry Unit
  | name text => .name text
  | parameter _ => .parameter ()

def isParameter : Entry α → Bool
  | name _ => false
  | parameter _ => true

def marker? : Entry α → Option α
  | name _ => none
  | parameter marker => some marker

/-- Numbers the places from `next` on. -/
def number (next : Nat) : List (Entry Unit) → List (Entry String)
  | [] => []
  | name text :: rest => .name text :: number next rest
  | parameter _ :: rest => .parameter (parameterText next) :: number (next + 1) rest

/-- The places of entries are numbered without gaps. -/
theorem markers_number (next : Nat) (entries : List (Entry Unit)) :
    (number next entries).filterMap marker? =
      (List.range' next (entries.countP isParameter)).map parameterText := by
  induction entries generalizing next with
  | nil => rfl
  | cons entry rest ih =>
      cases entry with
      | name text =>
          rw [number, List.filterMap_cons, marker?, List.countP_cons_of_neg (by simp [isParameter]),
            ← ih next]
      | parameter marker =>
          rw [number, List.filterMap_cons, marker?, ih,
            List.countP_cons_of_pos (by rfl), List.range'_succ]
          rfl

end Entry

/-! Entries of lexemes -/

/-- A quoted name, a star in the place of one, or a word that marks a value. -/
def Lexeme.mention? : Lexeme → Option (Entry String)
  | atom (.quoted quote content) =>
      if quote = '\x22' then some (.name (String.ofList content)) else none
  | atom (.sign characters) => if characters = ['*'] then some (.name "*") else none
  | atom (.word letters) =>
      if letters.contains '?' || letters.contains '$' then
        some (.parameter (String.ofList letters))
      else none
  | _ => none

/-- The entries of a text. -/
def entries (text : String) : List (Entry String) :=
  (Vendor.postgres.lex .between text.toList).filterMap Lexeme.mention?

theorem Lexeme.mention?_of_plain {lexeme : Lexeme} (plain : lexeme.isPlain = true)
    (other : lexeme ≠ .atom (.word ['?'])) :
    lexeme.mention? = none ∨ ∃ name, lexeme.mention? = some (.name name) := by
  cases lexeme with
  | opening => exact .inl rfl
  | closing => exact .inl rfl
  | atom atom =>
      cases atom with
      | word letters =>
          have longer : letters ≠ ['?'] := fun same => other (by rw [same])
          simp only [isPlain, longer, decide_false, Bool.false_or, Bool.and_eq_true,
            Bool.not_eq_true'] at plain
          exact .inl (by simp only [mention?, plain.1, plain.2]; rfl)
      | sign characters =>
          rw [mention?]
          split
          · exact .inr ⟨_, rfl⟩
          · exact .inl rfl
      | quoted quote content =>
          rw [mention?]
          split
          · exact .inr ⟨_, rfl⟩
          · exact .inl rfl
      | mark c => exact .inl rfl

theorem filterMap_numberLexemes (next : Nat) {lexemes : List Lexeme}
    (plain : lexemes.all Lexeme.isPlain = true) :
    (numberLexemes next lexemes).filterMap Lexeme.mention? =
      Entry.number next ((lexemes.filterMap Lexeme.mention?).map Entry.blank) := by
  induction lexemes generalizing next with
  | nil => rfl
  | cons lexeme rest ih =>
      rw [List.all_cons, Bool.and_eq_true] at plain
      by_cases marker : lexeme = .atom (.word ['?'])
      · have numbered : Lexeme.mention? (.atom (.word (parameterText next).toList)) =
            some (.parameter (parameterText next)) := by
          have dollar : '$' ∈ (parameterText next).toList := by simp [toList_parameterText]
          simp [Lexeme.mention?, dollar]
        have single : Lexeme.mention? (.atom (.word ['?'])) = some (.parameter "?") := by decide
        rw [marker, numberLexemes, if_pos rfl, List.filterMap_cons, numbered, ih _ plain.2,
          List.filterMap_cons, single]
        rfl
      · rw [numberLexemes, if_neg marker]
        rcases Lexeme.mention?_of_plain plain.1 marker with none | ⟨name, named⟩
        · rw [List.filterMap_cons, List.filterMap_cons, none]
          exact ih next plain.2
        · rw [List.filterMap_cons, List.filterMap_cons, named, ih next plain.2]
          rfl

/-- The entries of a numbered statement are those of the statement with their places numbered. -/
theorem entries_numberMarkers {text : String} {lexemes : List Lexeme}
    (lexes : Vendor.postgres.Lexes text lexemes) :
    entries (numberMarkers text) =
      Entry.number 1 ((lexemes.filterMap Lexeme.mention?).map Entry.blank) := by
  rw [entries, lexes.numberMarkers.2]
  exact filterMap_numberLexemes 1 lexes.plain

/-! Entries of trees -/

def entriesOf (trees : List Tree) : List (Entry Unit) :=
  ((flatAll trees).filterMap Lexeme.mention?).map Entry.blank

@[simp] theorem entriesOf_nil : entriesOf [] = [] :=
  rfl

@[simp] theorem entriesOf_append (left right : List Tree) :
    entriesOf (left ++ right) = entriesOf left ++ entriesOf right := by
  simp [entriesOf]

theorem entriesOf_cons (tree : Tree) (rest : List Tree) :
    entriesOf (tree :: rest) = entriesOf [tree] ++ entriesOf rest :=
  entriesOf_append [tree] rest

@[simp] theorem entriesOf_parens (inner : List Tree) :
    entriesOf [.parens inner] = entriesOf inner := by
  have brackets : Lexeme.opening.mention? = none ∧ Lexeme.closing.mention? = none := ⟨rfl, rfl⟩
  simp [entriesOf, flatAll, Tree.flat, brackets]

theorem entriesOf_intercalate {between : List Tree} (silent : entriesOf between = [])
    (each : List (List Tree)) :
    entriesOf (between.intercalate each) = each.flatMap entriesOf := by
  induction each with
  | nil => rfl
  | cons first rest ih =>
      cases rest with
      | nil => simp
      | cons next others =>
          rw [List.intercalate_cons_cons, entriesOf_append, entriesOf_append, silent, ih]
          simp

theorem entriesOf_flatten (each : List (List Tree)) :
    entriesOf each.flatten = each.flatMap entriesOf := by
  have whole := @entriesOf_intercalate [] rfl each
  rwa [Vendor.intercalate_nil] at whole

/-! Words and signs of SQL -/

theorem entriesOf_letters {letters : List Char} (alpha : letters.all Char.isAlphanum = true) :
    entriesOf [.leaf (.word letters)] = [] := by
  have question : '?' ∉ letters := fun member =>
    absurd (List.all_eq_true.mp alpha _ member) (by decide)
  have dollar : '$' ∉ letters := fun member =>
    absurd (List.all_eq_true.mp alpha _ member) (by decide)
  simp [entriesOf, flatAll, Tree.flat, Lexeme.mention?, question, dollar]

theorem entriesOf_word {word : String} (alpha : word.toList.all Char.isAlphanum = true)
    (rest : List Tree) : entriesOf (wordTree word :: rest) = entriesOf rest := by
  rw [entriesOf_cons, wordTree, entriesOf_letters alpha, List.nil_append]

/-! What names, values and joins bring -/

/-- The names that a column is written with: its segments, the first of several behind the prefix
of tables, and its alias. -/
def columnNames (tablePrefix name : String) : List String :=
  match splitAlias name with
  | some (base, shown) => (counted tablePrefix).prefixed (segments base) ++ [shown]
  | none => (counted tablePrefix).prefixed (segments name)

/-- A schema counts as one name. -/
def schemaNames (tablePrefix name : String) : List String :=
  match splitSchema name with
  | (some schema, table) => [schema, tablePrefix ++ table]
  | (none, table) => [tablePrefix ++ table]

def tableNames (tablePrefix name : String) : List String :=
  match splitAlias name with
  | some (base, shown) => schemaNames tablePrefix base ++ [tablePrefix ++ shown]
  | none => schemaNames tablePrefix name

namespace Entry

variable (tablePrefix : String)

def ofColumn : Identifier → List (Entry Unit)
  | .named text => (columnNames tablePrefix text).map .name
  | .verbatim _ => []

def ofTable : Identifier → List (Entry Unit)
  | .named text => (tableNames tablePrefix text).map .name
  | .verbatim _ => []

def ofOperand : Operand → List (Entry Unit)
  | .bound _ => [.parameter ()]
  | .verbatim _ => []

def ofTarget : JoinTarget → List (Entry Unit)
  | .column right => ofColumn tablePrefix right
  | .value right => ofOperand right

def ofConditions (join : Join) : List (Entry Unit) :=
  join.conditions.flatMap fun condition =>
    ofColumn tablePrefix condition.first ++ ofTarget tablePrefix condition.second

def ofJoin (join : Join) : List (Entry Unit) :=
  ofTable tablePrefix join.table ++ ofConditions tablePrefix join

/-- NULL is compared without a place for it. -/
def ofComparison (column : Identifier) (operand : Operand) : List (Entry Unit) :=
  if operand.isNull then ofColumn tablePrefix column
  else ofColumn tablePrefix column ++ ofOperand operand

/-- No values at all are compared as a constant, without the column. -/
def ofMembership (column : Identifier) (operands : List Operand) : List (Entry Unit) :=
  if operands = [] then [] else ofColumn tablePrefix column ++ operands.flatMap ofOperand

/-- The entries of a list of predicates. -/
def ofClauses (members : List Clause) : List (Entry Unit) :=
  ((counted tablePrefix).clauseTrees members).flatMap fun clause => entriesOf clause.2

def ofOrders (orders : List Order) : List (Entry Unit) :=
  orders.flatMap fun order => entriesOf ((counted tablePrefix).orderTrees order)

def ofBranches (branches : List Branch) : List (Entry Unit) :=
  ((counted tablePrefix).branchTrees branches).flatMap entriesOf

end Entry

namespace Dialect

variable {tablePrefix : String}

theorem entriesOf_segment (name : String) :
    entriesOf [(counted tablePrefix).segmentTree name] = [.name name] := by
  unfold segmentTree
  split
  · rename_i star
    rw [star]
    rfl
  · simp [entriesOf, flatAll, Tree.flat, Lexeme.mention?, Vendor.quote, Entry.blank]

theorem entriesOf_path (segments : List String) :
    entriesOf ((counted tablePrefix).pathTreesOf segments) = segments.map .name := by
  rw [pathTreesOf, entriesOf_intercalate rfl, List.flatMap_map]
  simp only [entriesOf_segment]
  exact (List.map_eq_flatMap ..).symm

theorem entriesOf_column (name : String) :
    entriesOf ((counted tablePrefix).columnTrees name) =
      (columnNames tablePrefix name).map .name := by
  unfold columnTrees columnNames
  cases splitAlias name with
  | none => exact entriesOf_path _
  | some parts =>
      dsimp only
      rw [entriesOf_append, pathTrees, entriesOf_path, entriesOf_word (by decide),
        entriesOf_segment, List.map_append]
      rfl

theorem entriesOf_table (name : String) :
    entriesOf ((counted tablePrefix).tableTrees name) =
      (tableNames tablePrefix name).map .name := by
  have path : ∀ name, entriesOf ((counted tablePrefix).tablePathTrees name) =
      (schemaNames tablePrefix name).map .name := by
    intro name
    unfold tablePathTrees schemaNames
    rcases splitSchema name with ⟨schema, table⟩
    cases schema <;> exact entriesOf_path _
  unfold tableTrees tableNames
  cases splitAlias name with
  | none => exact path _
  | some parts =>
      dsimp only
      rw [entriesOf_append, path, entriesOf_word (by decide), entriesOf_segment, List.map_append]
      rfl

theorem entriesOf_columnRef {column : Identifier} (named : column.IsNamed) :
    entriesOf ((counted tablePrefix).columnRefTrees column) =
      Entry.ofColumn tablePrefix column := by
  cases column with
  | named name => exact entriesOf_column name
  | verbatim sql => exact named.elim

theorem entriesOf_tableRef {table : Identifier} (named : table.IsNamed) :
    entriesOf ((counted tablePrefix).tableRefTrees table) = Entry.ofTable tablePrefix table := by
  cases table with
  | named name => exact entriesOf_table name
  | verbatim sql => exact named.elim

theorem entriesOf_operand {operand : Operand} (bound : operand.IsBound) :
    entriesOf ((counted tablePrefix).operandTrees operand) = Entry.ofOperand operand := by
  cases operand with
  | bound value =>
      have marker : entriesOf [wordTree "?"] = [.parameter ()] := by decide
      exact marker
  | verbatim sql => exact bound.elim

theorem entriesOf_list (each : List (List Tree)) :
    entriesOf (listTrees each) = each.flatMap entriesOf :=
  entriesOf_intercalate rfl each

theorem entriesOf_columnRefs {columns : List Identifier}
    (named : ∀ column ∈ columns, column.IsNamed) :
    entriesOf ((counted tablePrefix).columnRefsTrees columns) =
      columns.flatMap (Entry.ofColumn tablePrefix) := by
  rw [columnRefsTrees, entriesOf_list, List.flatMap_map]
  exact List.flatMap_congr fun column member => entriesOf_columnRef (named column member)

/-! Operators and parts of dates -/

theorem entriesOf_operator {vendor : Vendor} {operator : String}
    (known : vendor.knowsOperator operator = true) : entriesOf (operatorTrees operator) = [] := by
  have listed : Text.asciiLower operator ∈ vendor.operators := by
    simpa [Vendor.knowsOperator] using known
  unfold operatorTrees
  dsimp only
  split
  · rename_i alpha
    generalize operator.toList.splitOn ' ' = parts at alpha
    induction parts with
    | nil => rfl
    | cons part rest ih =>
        rw [List.all_cons, Bool.and_eq_true] at alpha
        rw [List.map_cons, entriesOf_cons, ih alpha.2, entriesOf_letters]
        · rfl
        · exact List.all_eq_true.mpr fun c member => by
            simp [Char.isAlphanum, List.all_eq_true.mp alpha.1 c member]
  · have other : operator.toList ≠ ['*'] := by
      intro star
      have unlisted : ∀ vendor : Vendor,
          String.ofList (['*'].map Char.toLower) ∉ vendor.operators := by
        intro vendor
        cases vendor <;> decide
      rw [Text.asciiLower, star] at listed
      exact unlisted vendor listed
    simp [entriesOf, signTree, flatAll, Tree.flat, Lexeme.mention?, other]

theorem entriesOf_datePart (part : DatePart) (column : List Tree) :
    entriesOf ((counted tablePrefix).datePartTrees part column) = entriesOf column := by
  cases part with
  | date =>
      have words : entriesOf [markTree ':', markTree ':', wordTree "date"] = [] := rfl
      simp [datePartTrees, words]
  | _ =>
      simp (disch := decide) only [datePartTrees, entriesOf_word, entriesOf_parens]

theorem entriesOf_chain (clauses : List (Connective × List Tree)) :
    entriesOf (chainTrees clauses) = clauses.flatMap fun clause => entriesOf clause.2 := by
  cases clauses with
  | nil => rfl
  | cons first rest =>
      rw [chainTrees, entriesOf_append, List.flatMap_cons]
      congr 1
      induction rest with
      | nil => rfl
      | cons clause rest ih =>
          have word : clause.1.text.toList.all Char.isAlphanum = true := by
            cases clause.1 <;> decide
          rw [List.flatMap_cons, entriesOf_append, entriesOf_word word, ih]
          rfl

theorem entriesOf_headed {word : String} (alpha : word.toList.all Char.isAlphanum = true)
    (clauses : List (Connective × List Tree)) :
    entriesOf (headedTrees word clauses) = clauses.flatMap fun clause => entriesOf clause.2 := by
  unfold headedTrees
  split
  · rename_i none
    rw [List.isEmpty_iff.mp none]
    rfl
  · rw [entriesOf_word alpha, entriesOf_chain]

/-! Clauses -/

theorem entriesOf_conditions {vendor : Vendor} {join : Join} (plain : join.IsPlain)
    (known : join.IsKnown vendor) :
    entriesOf ((counted tablePrefix).joinConditionsTrees join) =
      Entry.ofConditions tablePrefix join := by
  rw [joinConditionsTrees, entriesOf_chain, List.flatMap_map]
  refine List.flatMap_congr fun condition member => ?_
  have target : entriesOf ((counted tablePrefix).joinTargetTrees condition.second) =
      Entry.ofTarget tablePrefix condition.second := by
    have second := (plain.conditions condition member).second
    cases right : condition.second with
    | column column =>
        rw [right] at second
        exact entriesOf_columnRef second
    | value operand =>
        rw [right] at second
        exact entriesOf_operand second
  rw [joinConditionTrees, entriesOf_append, entriesOf_append, entriesOf_operator (known _ member),
    entriesOf_columnRef (plain.conditions condition member).first, target, List.append_nil]

theorem entriesOf_join {vendor : Vendor} {join : Join} (plain : join.IsPlain)
    (known : join.IsKnown vendor) :
    entriesOf ((counted tablePrefix).joinTrees join) = Entry.ofJoin tablePrefix join := by
  have table := @entriesOf_tableRef tablePrefix _ plain.table
  have conditions := @entriesOf_conditions tablePrefix _ _ plain known
  unfold joinTrees
  dsimp only
  split
  · rename_i bare
    rw [entriesOf_word (by decide), entriesOf_word (by decide), table]
    simp [Entry.ofJoin, Entry.ofConditions, bare.2]
  · have kind : join.kind.text.toList.all Char.isAlphanum = true := by
      cases join.kind <;> decide
    rw [List.cons_append, List.cons_append, entriesOf_word kind, entriesOf_word (by decide),
      entriesOf_append, entriesOf_word (by decide), table, conditions, Entry.ofJoin]

theorem entriesOf_joins {joins : List Join}
    (plain : ∀ join ∈ joins, join.IsPlain ∧ join.IsKnown (counted tablePrefix).vendor) :
    entriesOf (joins.flatMap (counted tablePrefix).joinTrees) =
      joins.flatMap (Entry.ofJoin tablePrefix) := by
  induction joins with
  | nil => rfl
  | cons first rest ih =>
      obtain ⟨head, tail⟩ := List.forall_mem_cons.mp plain
      rw [List.flatMap_cons, List.flatMap_cons, entriesOf_append, entriesOf_join head.1 head.2,
        ih tail]

theorem entriesOf_selectList (distinct : Bool) (columns : List Identifier) :
    entriesOf ((counted tablePrefix).selectListTrees distinct columns) =
      if columns = [] then [.name "*"]
      else columns.flatMap fun column =>
        entriesOf ((counted tablePrefix).columnRefTrees column) := by
  have kind : entriesOf (if distinct then [wordTree "DISTINCT"] else []) = [] := by
    cases distinct <;> decide
  rw [selectListTrees, List.cons_append, entriesOf_word (by decide), entriesOf_append, kind,
    List.nil_append]
  split
  · decide
  · rw [columnRefsTrees, entriesOf_list, List.flatMap_map]

theorem entriesOf_source {table : Option Identifier} (named : ∀ name ∈ table, name.IsNamed) :
    entriesOf ((counted tablePrefix).sourceTrees table) =
      table.toList.flatMap (Entry.ofTable tablePrefix) := by
  cases table with
  | none => rfl
  | some table =>
      rw [sourceTrees, entriesOf_word (by decide), entriesOf_tableRef (named table rfl)]
      simp

theorem entriesOf_group {groups : List Identifier} (named : ∀ column ∈ groups, column.IsNamed) :
    entriesOf ((counted tablePrefix).groupTrees groups) =
      groups.flatMap (Entry.ofColumn tablePrefix) := by
  unfold groupTrees
  split
  · rename_i none
    rw [none]
    rfl
  · rw [entriesOf_word (by decide), entriesOf_word (by decide), entriesOf_columnRefs named]

theorem entriesOf_orders (orders : List Order) :
    entriesOf ((counted tablePrefix).ordersTrees orders) =
      orders.flatMap fun order => entriesOf ((counted tablePrefix).orderTrees order) := by
  unfold ordersTrees
  split
  · rename_i none
    rw [none]
    rfl
  · rw [entriesOf_word (by decide), entriesOf_word (by decide), entriesOf_list, List.flatMap_map]

theorem entriesOf_number (n : Nat) : entriesOf [wordTree (toString n)] = [] := by
  refine entriesOf_letters (List.all_eq_true.mpr fun c member => ?_)
  have listed : c ∈ Nat.toDigits 10 n := by simpa using member
  have digit : c.isDigit = true := Nat.isDigit_of_mem_toDigits (by decide) (by decide) listed
  simp [Char.isAlphanum, digit]

theorem entriesOf_window (window : Window) :
    entriesOf ((counted tablePrefix).windowTrees window) =
      window.orders.flatMap fun order => entriesOf ((counted tablePrefix).orderTrees order) := by
  have limit : entriesOf ((counted tablePrefix).limitTrees window) = [] := by
    unfold limitTrees
    cases window.limit with
    | some limit =>
        dsimp only
        rw [entriesOf_word (by decide), entriesOf_number]
    | none => cases window.offset <;> rfl
  have offset : entriesOf (offsetTrees window) = [] := by
    unfold offsetTrees
    cases window.offset with
    | some offset =>
        dsimp only
        rw [entriesOf_word (by decide), entriesOf_number]
    | none => rfl
  rw [windowTrees, entriesOf_append, entriesOf_append, limit, offset, entriesOf_orders]
  simp

theorem entriesOf_lock {kind : Lock} (plain : kind.IsPlain) :
    entriesOf ((counted tablePrefix).lockTrees kind) = [] := by
  cases kind with
  | raw sql => exact plain.elim
  | shared =>
      change entriesOf [wordTree "FOR", wordTree "SHARE"] = []
      decide
  | forUpdate =>
      change entriesOf [wordTree "FOR", wordTree "UPDATE"] = []
      decide

theorem entriesOf_locked (trees : List Tree) {lock : Option Lock}
    (plain : ∀ kind ∈ lock, Lock.IsPlain kind) :
    entriesOf ((counted tablePrefix).lockedTrees trees lock) = entriesOf trees := by
  cases lock with
  | none => rfl
  | some kind =>
      rw [lockedTrees, entriesOf_append, entriesOf_lock (plain kind rfl), List.append_nil]

theorem entriesOf_united (main : List Tree) (branches : List (List Tree)) (window : Window) :
    entriesOf ((counted tablePrefix).unitedTrees main branches window) =
      if branches = [] then entriesOf main
      else entriesOf main ++ branches.flatMap entriesOf ++
        Entry.ofOrders tablePrefix window.orders := by
  unfold unitedTrees
  split
  · rfl
  · rw [entriesOf_append, entriesOf_append, entriesOf_flatten, entriesOf_window]
    rfl

/-- The entries of a select are those of its clauses, one after the other. -/
theorem entriesOf_select {words : Vocabulary} {query : Query}
    (plain : query.PlainParts (counted tablePrefix) words) :
    entriesOf ((counted tablePrefix).selectTrees query) =
      (if query.columns = [] then [.name "*"]
        else query.columns.flatMap fun column =>
          entriesOf ((counted tablePrefix).columnRefTrees column)) ++
      query.table.toList.flatMap (Entry.ofTable tablePrefix) ++
      query.joins.flatMap (Entry.ofJoin tablePrefix) ++
      Entry.ofClauses tablePrefix query.wheres ++
      query.groups.flatMap (Entry.ofColumn tablePrefix) ++
      Entry.ofClauses tablePrefix query.havings ++
      Entry.ofOrders tablePrefix query.window.orders ++
      if query.unions = [] then []
      else Entry.ofBranches tablePrefix query.unions ++
        Entry.ofOrders tablePrefix query.unionWindow.orders := by
  obtain ⟨columns, distinct, table, joins, wheres, groups, havings, window, unions, unionWindow,
    lock, aggregate⟩ := query
  have source := @entriesOf_source tablePrefix _ plain.table
  have joined := entriesOf_joins plain.joins
  have grouped := @entriesOf_group tablePrefix _ plain.groups
  have none : (counted tablePrefix).branchTrees unions = [] ↔ unions = [] := by
    cases unions with
    | nil => simp [branchTrees]
    | cons branch rest =>
        obtain ⟨query, keepsDuplicates⟩ := branch
        simp [branchTrees]
  rw [selectTrees, entriesOf_locked _ plain.lock, entriesOf_united, mainTrees]
  simp only [entriesOf_append, entriesOf_selectList, source, joined, grouped, entriesOf_window,
    @entriesOf_headed "WHERE" (by decide), @entriesOf_headed "HAVING" (by decide), none]
  split
  · rw [List.append_nil]
    rfl
  · simp only [Entry.ofClauses, Entry.ofOrders, Entry.ofBranches, List.append_assoc]

/-! Predicates -/

section Predicates

variable {column : Identifier} {operator : String} {operand : Operand}

@[simp] theorem entriesOf_negation (negated : Bool) : entriesOf (negationTrees negated) = [] := by
  cases negated <;> decide

theorem entriesOf_comparison (named : column.IsNamed)
    (known : (counted tablePrefix).vendor.knowsOperator operator = true) (bound : operand.IsBound) :
    entriesOf ((counted tablePrefix).predicateTrees (.compare column operator operand)) =
      Entry.ofColumn tablePrefix column ++ Entry.ofOperand operand := by
  simp [predicateTrees, entriesOf_columnRef named, entriesOf_operator known,
    entriesOf_operand bound]

theorem entriesOf_compareColumns {other : Identifier} (named : column.IsNamed)
    (known : (counted tablePrefix).vendor.knowsOperator operator = true)
    (otherNamed : other.IsNamed) :
    entriesOf ((counted tablePrefix).predicateTrees (.compareColumns column operator other)) =
      Entry.ofColumn tablePrefix column ++ Entry.ofColumn tablePrefix other := by
  simp [predicateTrees, entriesOf_columnRef named, entriesOf_operator known,
    entriesOf_columnRef otherNamed]

theorem entriesOf_compareQuery (named : column.IsNamed)
    (known : (counted tablePrefix).vendor.knowsOperator operator = true) (query : Query) :
    entriesOf ((counted tablePrefix).predicateTrees (.compareQuery column operator query)) =
      Entry.ofColumn tablePrefix column ++
        entriesOf ((counted tablePrefix).selectTrees query) := by
  simp [predicateTrees, entriesOf_columnRef named, entriesOf_operator known]

theorem entriesOf_inQuery (named : column.IsNamed) (negated : Bool) (query : Query) :
    entriesOf ((counted tablePrefix).predicateTrees (.inQuery negated column query)) =
      Entry.ofColumn tablePrefix column ++
        entriesOf ((counted tablePrefix).selectTrees query) := by
  simp (disch := decide) [predicateTrees, entriesOf_columnRef named, entriesOf_word]

theorem entriesOf_inList {operands : List Operand} (named : column.IsNamed)
    (bound : ∀ operand ∈ operands, operand.IsBound) (negated : Bool) :
    entriesOf ((counted tablePrefix).predicateTrees (.inList negated column operands)) =
      Entry.ofMembership tablePrefix column operands := by
  rw [predicateTrees, Entry.ofMembership]
  split
  · cases negated <;> decide
  · have values : entriesOf ((counted tablePrefix).parametersTrees operands) =
        operands.flatMap Entry.ofOperand := by
      rw [parametersTrees, entriesOf_list, List.flatMap_map]
      exact List.flatMap_congr fun operand member => entriesOf_operand (bound operand member)
    simp (disch := decide) [entriesOf_columnRef named, entriesOf_word, values]

theorem entriesOf_isNull (named : column.IsNamed) (negated : Bool) :
    entriesOf ((counted tablePrefix).predicateTrees (.isNull negated column)) =
      Entry.ofColumn tablePrefix column := by
  simp (disch := decide) [predicateTrees, entriesOf_columnRef named, entriesOf_word]

theorem entriesOf_between {low high : Operand} (named : column.IsNamed) (lowBound : low.IsBound)
    (highBound : high.IsBound) (negated : Bool) :
    entriesOf ((counted tablePrefix).predicateTrees (.between negated column low high)) =
      Entry.ofColumn tablePrefix column ++ Entry.ofOperand low ++ Entry.ofOperand high := by
  simp (disch := decide) [predicateTrees, entriesOf_columnRef named, entriesOf_word,
    entriesOf_operand lowBound, entriesOf_operand highBound]

theorem entriesOf_exists (negated : Bool) (query : Query) :
    entriesOf ((counted tablePrefix).predicateTrees (.exists negated query)) =
      entriesOf ((counted tablePrefix).selectTrees query) := by
  simp (disch := decide) [predicateTrees, entriesOf_word]

theorem entriesOf_compareDate (part : DatePart) (named : column.IsNamed)
    (known : (counted tablePrefix).vendor.knowsOperator operator = true) (bound : operand.IsBound) :
    entriesOf ((counted tablePrefix).predicateTrees (.compareDate part column operator operand)) =
      Entry.ofColumn tablePrefix column ++ Entry.ofOperand operand := by
  simp [predicateTrees, entriesOf_datePart, entriesOf_columnRef named, entriesOf_operator known,
    entriesOf_operand bound]

end Predicates

end Dialect

end SqlToolkit
