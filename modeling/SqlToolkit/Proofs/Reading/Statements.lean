import SqlToolkit.Proofs.Reading.Phrases
/-!
The trees of a select statement, clause by clause as the dialect writes them. A query without
fragments of SQL, apart from whole selects in its select list, reads as its trees.
-/

namespace SqlToolkit

namespace Dialect

/-! The trees of the parts of a statement -/

def listTrees (each : List (List Tree)) : List Tree :=
  [markTree ','].intercalate each

def columnRefsTrees (dialect : Dialect) (columns : List Identifier) : List Tree :=
  listTrees (columns.map dialect.columnRefTrees)

def parametersTrees (dialect : Dialect) (operands : List Operand) : List Tree :=
  listTrees (operands.map dialect.operandTrees)

/-- Predicates with their connectives; that of the first one is not written. -/
def chainTrees : List (Connective × List Tree) → List Tree
  | [] => []
  | (_, first) :: rest =>
      first ++ rest.flatMap fun (connective, trees) => wordTree connective.text :: trees

def headedTrees (word : String) (clauses : List (Connective × List Tree)) : List Tree :=
  if clauses.isEmpty then [] else wordTree word :: chainTrees clauses

def joinTargetTrees (dialect : Dialect) : JoinTarget → List Tree
  | .column column => dialect.columnRefTrees column
  | .value operand => dialect.operandTrees operand

def joinConditionTrees (dialect : Dialect) (condition : JoinCondition) : List Tree :=
  dialect.columnRefTrees condition.first ++ operatorTrees condition.operator ++
    dialect.joinTargetTrees condition.second

def joinConditionsTrees (dialect : Dialect) (join : Join) : List Tree :=
  chainTrees (join.conditions.map fun condition =>
    (condition.connective, dialect.joinConditionTrees condition))

def joinTrees (dialect : Dialect) (join : Join) : List Tree :=
  let table := dialect.tableRefTrees join.table
  if join.kind = .cross ∧ join.conditions = [] then wordTree "CROSS" :: wordTree "JOIN" :: table
  else
    wordTree join.kind.text :: wordTree "JOIN" :: table ++
      wordTree "ON" :: dialect.joinConditionsTrees join

def selectListTrees (dialect : Dialect) (distinct : Bool) (columns : List Identifier) : List Tree :=
  wordTree "SELECT" :: (if distinct then [wordTree "DISTINCT"] else []) ++
    if columns = [] then [signTree "*"] else dialect.columnRefsTrees columns

def sourceTrees (dialect : Dialect) : Option Identifier → List Tree
  | some table => wordTree "FROM" :: dialect.tableRefTrees table
  | none => []

def groupTrees (dialect : Dialect) (groups : List Identifier) : List Tree :=
  if groups = [] then [] else wordTree "GROUP" :: wordTree "BY" :: dialect.columnRefsTrees groups

def orderTrees (dialect : Dialect) : Order → List Tree
  | .column column direction => dialect.columnRefTrees column ++ [wordTree direction.text]
  | .raw sql => dialect.fragmentTrees sql

def ordersTrees (dialect : Dialect) (orders : List Order) : List Tree :=
  if orders = [] then []
  else wordTree "ORDER" :: wordTree "BY" :: listTrees (orders.map dialect.orderTrees)

def limitTrees (dialect : Dialect) (window : Window) : List Tree :=
  match window.limit, window.offset, dialect.vendor with
  | some limit, _, _ => [wordTree "LIMIT", wordTree (toString limit)]
  | none, some _, .sqlite => [wordTree "LIMIT", signTree "-", wordTree "1"]
  | none, some _, .mysql => [wordTree "LIMIT", wordTree "18446744073709551615"]
  | none, _, _ => []

def offsetTrees (window : Window) : List Tree :=
  match window.offset with
  | some offset => [wordTree "OFFSET", wordTree (toString offset)]
  | none => []

def windowTrees (dialect : Dialect) (window : Window) : List Tree :=
  dialect.ordersTrees window.orders ++ dialect.limitTrees window ++ offsetTrees window

def unionSideTrees (dialect : Dialect) (trees : List Tree) : List Tree :=
  match dialect.vendor with
  | .mysql => [.parens trees]
  | _ => trees

def lockTrees (dialect : Dialect) (lock : Lock) : List Tree :=
  match dialect.vendor, lock with
  | _, .raw sql => dialect.fragmentTrees sql
  | .sqlite, _ => []
  | _, .forUpdate => [wordTree "FOR", wordTree "UPDATE"]
  | .mysql, .shared => [wordTree "LOCK", wordTree "IN", wordTree "SHARE", wordTree "MODE"]
  | .postgres, .shared => [wordTree "FOR", wordTree "SHARE"]

def unitedTrees (dialect : Dialect) (main : List Tree) (branches : List (List Tree))
    (window : Window) : List Tree :=
  if branches = [] then main
  else dialect.unionSideTrees main ++ branches.flatten ++ dialect.windowTrees window

def lockedTrees (dialect : Dialect) (trees : List Tree) : Option Lock → List Tree
  | some lock => trees ++ dialect.lockTrees lock
  | none => trees

def negationTrees (negated : Bool) : List Tree :=
  if negated then [wordTree "NOT"] else []

/-- A statement apart from its unions and its lock. -/
def mainTrees (dialect : Dialect) (distinct : Bool) (columns : List Identifier)
    (table : Option Identifier) (joins : List Join) (wheres : List (Connective × List Tree))
    (groups : List Identifier) (havings : List (Connective × List Tree)) (window : Window) :
    List Tree :=
  dialect.selectListTrees distinct columns ++ dialect.sourceTrees table ++
    joins.flatMap dialect.joinTrees ++ headedTrees "WHERE" wheres ++ dialect.groupTrees groups ++
    headedTrees "HAVING" havings ++ dialect.windowTrees window

mutual

/-- The trees of a select without an aggregate. -/
def selectTrees (dialect : Dialect) : Query → List Tree
  | ⟨columns, distinct, table, joins, wheres, groups, havings, window, unions, unionWindow, lock,
      _⟩ =>
      let main := dialect.mainTrees distinct columns table joins (dialect.clauseTrees wheres) groups
        (dialect.clauseTrees havings) window
      dialect.lockedTrees (dialect.unitedTrees main (dialect.branchTrees unions) unionWindow) lock

def branchTrees (dialect : Dialect) : List Branch → List (List Tree)
  | [] => []
  | ⟨query, keepsDuplicates⟩ :: rest =>
      (wordTree "UNION" :: (if keepsDuplicates then [wordTree "ALL"] else []) ++
        dialect.unionSideTrees (dialect.selectTrees query)) :: dialect.branchTrees rest

def clauseTrees (dialect : Dialect) : List Clause → List (Connective × List Tree)
  | [] => []
  | ⟨connective, predicate⟩ :: rest =>
      (connective, dialect.predicateTrees predicate) :: dialect.clauseTrees rest

def predicateTrees (dialect : Dialect) : Predicate → List Tree
  | .compare column operator operand =>
      dialect.columnRefTrees column ++ operatorTrees operator ++ dialect.operandTrees operand
  | .compareColumns first operator second =>
      dialect.columnRefTrees first ++ operatorTrees operator ++ dialect.columnRefTrees second
  | .group members => [.parens (chainTrees (dialect.clauseTrees members))]
  | .compareQuery column operator query =>
      dialect.columnRefTrees column ++ operatorTrees operator ++
        [.parens (dialect.selectTrees query)]
  | .inList negated column operands =>
      if operands = [] then [wordTree (if negated then "1" else "0"), signTree "=", wordTree "1"]
      else
        dialect.columnRefTrees column ++ negationTrees negated ++
          [wordTree "IN", .parens (dialect.parametersTrees operands)]
  | .inQuery negated column query =>
      dialect.columnRefTrees column ++ negationTrees negated ++
        [wordTree "IN", .parens (dialect.selectTrees query)]
  | .isNull negated column =>
      dialect.columnRefTrees column ++ wordTree "IS" :: negationTrees negated ++ [wordTree "NULL"]
  | .between negated column low high =>
      dialect.columnRefTrees column ++ negationTrees negated ++ wordTree "BETWEEN" ::
        dialect.operandTrees low ++ wordTree "AND" :: dialect.operandTrees high
  | .exists negated query =>
      negationTrees negated ++ [wordTree "EXISTS", .parens (dialect.selectTrees query)]
  | .compareDate part column operator operand =>
      dialect.datePartTrees part (dialect.columnRefTrees column) ++ operatorTrees operator ++
        dialect.operandTrees operand
  | .raw sql => dialect.fragmentTrees sql

end

end Dialect

/-! Words that begin a clause -/

/-- The words that end the clause before them. -/
def clauseWords : List String :=
  ["where", "group", "having", "order", "limit", "offset", "union", "for", "lock"]

/-- A fragment whose quotes and brackets are closed and which begins no clause. -/
def Dialect.Closed (dialect : Dialect) (sql : String) : Prop :=
  ∃ trees, dialect.vendor.Reads sql trees ∧ Avoid clauseWords trees

/-! Queries without fragments -/

def Identifier.IsNamed : Identifier → Prop
  | .named _ => True
  | .verbatim _ => False

def Operand.IsBound : Operand → Prop
  | .bound _ => True
  | .verbatim _ => False

def JoinTarget.IsPlain : JoinTarget → Prop
  | .column right => right.IsNamed
  | .value right => right.IsBound

structure JoinCondition.IsPlain (condition : JoinCondition) : Prop where
  first : condition.first.IsNamed
  second : condition.second.IsPlain

structure Join.IsPlain (join : Join) : Prop where
  table : join.table.IsNamed
  conditions : ∀ condition ∈ join.conditions, condition.IsPlain

def Join.IsKnown (vendor : Vendor) (join : Join) : Prop :=
  ∀ condition ∈ join.conditions, vendor.knowsOperator condition.operator = true

def Order.IsPlain : Order → Prop
  | .column name _ => name.IsNamed
  | .raw _ => False

def Window.IsPlain (window : Window) : Prop :=
  ∀ order ∈ window.orders, order.IsPlain

def Lock.IsPlain : Lock → Prop
  | .raw _ => False
  | _ => True

/-- The columns and the operators that predicates are made of. -/
structure Vocabulary where
  column : String → Prop
  operator : String → Prop
  equality : operator "="

def Identifier.Within (words : Vocabulary) : Identifier → Prop
  | .named name => words.column name
  | .verbatim _ => False

section Plain

variable (dialect : Dialect) (words : Vocabulary)

/-- A name, or a fragment that is closed. -/
def Identifier.Shown : Identifier → Prop
  | .named _ => True
  | .verbatim sql => dialect.Closed sql

def Vocabulary.Compares (operator : String) : Prop :=
  dialect.vendor.knowsOperator operator = true ∧ words.operator operator

mutual

/-- Queries of names and bound values with operators that are known. Only select lists hold
fragments, and groups have members. -/
def Query.Plain : Query → Prop
  | ⟨columns, _, table, joins, wheres, groups, havings, window, unions, unionWindow, lock,
      aggregate⟩ =>
      ((∀ column ∈ columns, column.Shown dialect) ∧ (∀ name ∈ table, name.IsNamed) ∧
        ∀ join ∈ joins, join.IsPlain ∧ join.IsKnown dialect.vendor) ∧
      Clause.Plain wheres ∧ (∀ column ∈ groups, column.IsNamed) ∧ Clause.Plain havings ∧
      window.IsPlain ∧ Branch.Plain unions ∧ unionWindow.IsPlain ∧
      (∀ kind ∈ lock, Lock.IsPlain kind) ∧ aggregate = none

def Branch.Plain : List Branch → Prop
  | [] => True
  | ⟨query, _⟩ :: rest => query.Plain ∧ Branch.Plain rest

def Clause.Plain : List Clause → Prop
  | [] => True
  | ⟨_, predicate⟩ :: rest => predicate.Plain ∧ Clause.Plain rest

def Predicate.Plain : Predicate → Prop
  | .compare column operator operand =>
      column.Within words ∧ words.Compares dialect operator ∧ operand.IsBound
  | .compareColumns first operator second =>
      first.Within words ∧ words.Compares dialect operator ∧ second.Within words
  | .group members => members ≠ [] ∧ Clause.Plain members
  | .compareQuery column operator query =>
      column.Within words ∧ words.Compares dialect operator ∧ query.Plain
  | .inList _ column operands => column.Within words ∧ ∀ operand ∈ operands, operand.IsBound
  | .inQuery _ column query => column.Within words ∧ query.Plain
  | .isNull _ column => column.Within words
  | .between _ column low high => column.Within words ∧ low.IsBound ∧ high.IsBound
  | .exists _ query => query.Plain
  | .compareDate _ column operator operand =>
      column.Within words ∧ words.Compares dialect operator ∧ operand.IsBound
  | .raw _ => False

end

end Plain

theorem Identifier.Within.isNamed {words : Vocabulary} {column : Identifier}
    (within : column.Within words) : column.IsNamed := by
  cases column with
  | named name => trivial
  | verbatim sql => exact within

/-! Texts put together -/

namespace Vendor.Reads

variable {vendor : Vendor} {left middle right : String} {first between second : List Tree}

theorem blank (reads : vendor.Reads left first) (next : vendor.Reads right second) :
    vendor.Reads (left ++ " " ++ right) (first ++ second) := by
  have seam : vendor.Seam " " (flatAll []) := Lexes.blank
  have joined := reads.join seam next
  rwa [List.append_nil] at joined

theorem after (front : vendor.Reads left first)
    (ends : endsBroken left = true) (reads : vendor.Reads right second) :
    vendor.Reads (left ++ right) (first ++ second) :=
  front.append reads (.inl ends)

/-- A text, the words in front of an opening bracket, and what the bracket encloses. -/
theorem enclose (reads : vendor.Reads left first)
    (opens : vendor.Seam middle (flatAll between ++ [.opening]))
    (inner : vendor.Reads right second) :
    vendor.Reads (left ++ middle ++ right ++ ")") (first ++ between ++ [.parens second]) := by
  have closing : vendor.Lexes ")" [.closing] := by
    cases vendor <;> decide
  have whole := (Lexes.join reads opens inner).close closing (by decide)
  unfold Reads
  rw [flatAll_append, flatAll_append]
  simpa [flatAll, Tree.flat] using whole

end Vendor.Reads

namespace Dialect

variable {dialect : Dialect}

/-! Names and values -/

theorem reads_columnRef {column : Identifier} (named : column.IsNamed) :
    dialect.vendor.Reads (dialect.columnRef column) (dialect.columnRefTrees column) := by
  cases column with
  | named name => exact reads_column name
  | verbatim sql => exact named.elim

theorem reads_shown {column : Identifier} (shown : column.Shown dialect) :
    dialect.vendor.Reads (dialect.columnRef column) (dialect.columnRefTrees column) := by
  cases column with
  | named name => exact reads_column name
  | verbatim sql =>
      obtain ⟨trees, reads, -⟩ := shown
      exact Sealed.reads ⟨trees, reads⟩

theorem reads_tableRef {table : Identifier} (named : table.IsNamed) :
    dialect.vendor.Reads (dialect.tableRef table) (dialect.tableRefTrees table) := by
  cases table with
  | named name => exact reads_table name
  | verbatim sql => exact named.elim

theorem reads_parameter {operand : Operand} (bound : operand.IsBound) :
    dialect.vendor.Reads (dialect.parameter operand) (dialect.operandTrees operand) := by
  cases operand with
  | bound value => exact reads_marker
  | verbatim sql => exact bound.elim

/-! Lists -/

theorem forall₂_map {α β γ : Type} {relation : β → γ → Prop} {f : α → β} {g : α → γ} {list : List α}
    (each : ∀ x ∈ list, relation (f x) (g x)) :
    List.Forall₂ relation (list.map f) (list.map g) := by
  rw [List.forall₂_map_left_iff, List.forall₂_map_right_iff, List.forall₂_same]
  exact each

theorem reads_list {α : Type} {text : α → String} {trees : α → List Tree} {list : List α}
    (each : ∀ x ∈ list, dialect.vendor.Reads (text x) (trees x)) :
    dialect.vendor.Reads (", ".intercalate (list.map text)) (listTrees (list.map trees)) :=
  Vendor.Reads.intercalate seam_comma (forall₂_map each)

/-- A text and trees in a list of predicates, behind the same connective. -/
structure ChainReads (dialect : Dialect) (text : Connective × String)
    (trees : Connective × List Tree) : Prop where
  connective : text.1 = trees.1
  reads : dialect.vendor.Reads text.2 trees.2

theorem reads_chain {texts : List (Connective × String)} {trees : List (Connective × List Tree)}
    (chained : List.Forall₂ dialect.ChainReads texts trees) :
    dialect.vendor.Reads (chain texts) (chainTrees trees) := by
  cases chained with
  | nil => exact Vendor.Lexes.empty
  | @cons first head rest tail opened others =>
      have behind : List.Forall₂ dialect.vendor.Reads
          (rest.map fun part => part.1.text ++ " " ++ part.2)
          (tail.map fun part => wordTree part.1.text :: part.2) := by
        induction others with
        | nil => exact .nil
        | @cons text trees rest tail next others ih =>
            refine .cons ?_ ih
            change dialect.vendor.Reads (text.1.text ++ " " ++ text.2)
              (wordTree trees.1.text :: trees.2)
            have word : dialect.vendor.Reads (text.1.text ++ " ") [wordTree text.1.text] := by
              cases text.1 <;> cases dialect.vendor <;> decide
            rw [← next.connective]
            exact word.after (by cases text.1 <;> decide) next.reads
      have whole := Vendor.Reads.spaced (.cons opened.reads behind)
      rwa [List.flatten_cons, ← List.flatMap_def] at whole

theorem reads_headed {texts : List (Connective × String)} {trees : List (Connective × List Tree)}
    {word : String} (head : dialect.vendor.Reads (word ++ " ") [wordTree word])
    (chained : List.Forall₂ dialect.ChainReads texts trees) :
    dialect.vendor.Reads (headed word texts) (headedTrees word trees) := by
  have whole := reads_chain chained
  have ends : endsBroken (word ++ " ") = true := endsBroken_append (by decide) word
  cases chained with
  | nil => exact Vendor.Lexes.empty
  | cons opened others => exact head.after ends whole

theorem reads_parameters {operands : List Operand}
    (bound : ∀ operand ∈ operands, operand.IsBound) :
    dialect.vendor.Reads (dialect.parameters operands) (dialect.parametersTrees operands) :=
  reads_list fun operand member => reads_parameter (bound operand member)

/-! Clauses -/

theorem reads_columnRefs {columns : List Identifier}
    (shown : ∀ column ∈ columns, column.Shown dialect) :
    dialect.vendor.Reads (dialect.columnRefs columns) (dialect.columnRefsTrees columns) :=
  reads_list fun column member => reads_shown (shown column member)

theorem Shown.of_isNamed {column : Identifier} (named : column.IsNamed) :
    column.Shown dialect := by
  cases column with
  | named name => trivial
  | verbatim sql => exact named.elim

theorem reads_joinCondition {condition : JoinCondition} (plain : condition.IsPlain)
    (known : dialect.vendor.knowsOperator condition.operator = true) :
    dialect.vendor.Reads (dialect.joinCondition condition)
      (dialect.joinConditionTrees condition) := by
  have target : dialect.vendor.Reads (dialect.joinTarget condition.second)
      (dialect.joinTargetTrees condition.second) := by
    have second := plain.second
    cases right : condition.second with
    | column column =>
        rw [right] at second
        exact reads_columnRef second
    | value operand =>
        rw [right] at second
        exact reads_parameter second
  exact ((reads_columnRef plain.first).blank (reads_operator known)).blank target

theorem reads_joinConditions {join : Join} (plain : join.IsPlain)
    (known : join.IsKnown dialect.vendor) :
    dialect.vendor.Reads (dialect.joinConditions join) (dialect.joinConditionsTrees join) :=
  reads_chain (forall₂_map fun condition member =>
    ⟨rfl, reads_joinCondition (plain.conditions condition member) (known condition member)⟩)

theorem reads_join {join : Join} (plain : join.IsPlain) (known : join.IsKnown dialect.vendor) :
    dialect.vendor.Reads (dialect.join join) (dialect.joinTrees join) := by
  have table : dialect.vendor.Reads (dialect.tableRef join.table)
      (dialect.tableRefTrees join.table) := reads_tableRef plain.table
  have conditions := reads_joinConditions plain known
  unfold Dialect.join joinTrees
  dsimp only
  split
  · have words : dialect.vendor.Reads "CROSS JOIN " [wordTree "CROSS", wordTree "JOIN"] := by
      cases dialect.vendor <;> decide
    exact words.after (by decide) table
  · have words : dialect.vendor.Reads (join.kind.text ++ " JOIN ")
        [wordTree join.kind.text, wordTree "JOIN"] := by
      cases join.kind <;> cases dialect.vendor <;> decide
    have on : dialect.vendor.Seam " ON " (flatAll [wordTree "ON"]) := by
      cases dialect.vendor <;> decide
    have whole := (words.after (by cases join.kind <;> decide) table).join on conditions
    simpa using whole

theorem reads_joins {joins : List Join}
    (plain : ∀ join ∈ joins, join.IsPlain ∧ join.IsKnown dialect.vendor) :
    dialect.vendor.Reads (dialect.joins joins) (joins.flatMap dialect.joinTrees) := by
  have whole := Vendor.Reads.spaced
    (forall₂_map fun join member => reads_join (plain join member).1 (plain join member).2)
  rwa [← List.flatMap_def] at whole

theorem reads_selectList (distinct : Bool) {columns : List Identifier}
    (shown : ∀ column ∈ columns, column.Shown dialect) :
    dialect.vendor.Reads (dialect.selectList distinct columns)
      (dialect.selectListTrees distinct columns) := by
  unfold selectList selectListTrees
  dsimp only
  split
  · cases distinct <;> cases dialect.vendor <;> decide
  · have words : dialect.vendor.Reads (if distinct then "SELECT DISTINCT" else "SELECT")
        (wordTree "SELECT" :: if distinct then [wordTree "DISTINCT"] else []) := by
      cases distinct <;> cases dialect.vendor <;> decide
    exact words.blank (reads_columnRefs shown)

theorem reads_fromClause {table : Option Identifier} (named : ∀ name ∈ table, name.IsNamed) :
    dialect.vendor.Reads (dialect.fromClause table) (dialect.sourceTrees table) := by
  cases table with
  | none => exact Vendor.Lexes.empty
  | some table =>
      have word : dialect.vendor.Reads "FROM " [wordTree "FROM"] := by
        cases dialect.vendor <;> decide
      exact word.after (by decide) (reads_tableRef (named table rfl))

theorem reads_groupClause {groups : List Identifier}
    (named : ∀ column ∈ groups, column.IsNamed) :
    dialect.vendor.Reads (dialect.groupClause groups) (dialect.groupTrees groups) := by
  unfold groupClause groupTrees
  split
  · exact Vendor.Lexes.empty
  · have words : dialect.vendor.Reads "GROUP BY " [wordTree "GROUP", wordTree "BY"] := by
      cases dialect.vendor <;> decide
    exact words.after (by decide)
      (reads_columnRefs fun column member => Shown.of_isNamed (named column member))

theorem reads_order {order : Order} (plain : order.IsPlain) :
    dialect.vendor.Reads (dialect.order order) (dialect.orderTrees order) := by
  cases order with
  | column column direction =>
      have word : dialect.vendor.Reads direction.text [wordTree direction.text] := by
        cases direction <;> cases dialect.vendor <;> decide
      exact (reads_columnRef plain).blank word
  | raw sql => exact plain.elim

theorem reads_orderClause {orders : List Order} (plain : ∀ order ∈ orders, order.IsPlain) :
    dialect.vendor.Reads (dialect.orderClause orders) (dialect.ordersTrees orders) := by
  unfold orderClause ordersTrees
  split
  · exact Vendor.Lexes.empty
  · have words : dialect.vendor.Reads "ORDER BY " [wordTree "ORDER", wordTree "BY"] := by
      cases dialect.vendor <;> decide
    exact words.after (by decide)
      (reads_list fun order member => reads_order (plain order member))

theorem reads_number (n : Nat) : dialect.vendor.Reads (toString n) [wordTree (toString n)] := by
  have digit : ∀ c ∈ (toString n).toList, c.isDigit = true := by
    intro c member
    have listed : c ∈ Nat.toDigits 10 n := by simpa using member
    exact Nat.isDigit_of_mem_toDigits (by decide) (by decide) listed
  refine Vendor.lexes_word (by simp) (List.all_eq_true.mpr fun c member => ?_) ?_
  · simp [isLetter, Char.isAlphanum, digit c member]
  · exact isPlain_word (fun member => absurd (digit _ member) (by decide))
      fun member => absurd (digit _ member) (by decide)

theorem reads_limitClause (window : Window) :
    dialect.vendor.Reads (dialect.limitClause window) (dialect.limitTrees window) := by
  have word : dialect.vendor.Reads "LIMIT " [wordTree "LIMIT"] := by
    cases dialect.vendor <;> decide
  obtain ⟨orders, limit, offset⟩ := window
  unfold limitClause limitTrees
  cases limit with
  | some limit => exact word.after (by decide) (reads_number limit)
  | none =>
      cases offset with
      | none => exact Vendor.Lexes.empty
      | some offset => cases dialect.vendor <;> dsimp only <;> decide

theorem reads_offsetClause (window : Window) :
    dialect.vendor.Reads (offsetClause window) (offsetTrees window) := by
  have word : dialect.vendor.Reads "OFFSET " [wordTree "OFFSET"] := by
    cases dialect.vendor <;> decide
  unfold offsetClause offsetTrees
  cases window.offset with
  | some offset => exact word.after (by decide) (reads_number offset)
  | none => exact Vendor.Lexes.empty

theorem reads_windowClauses {window : Window} (plain : window.IsPlain) :
    List.Forall₂ dialect.vendor.Reads (dialect.windowClauses window)
      [dialect.ordersTrees window.orders, dialect.limitTrees window, offsetTrees window] :=
  .cons (reads_orderClause plain) (.cons (reads_limitClause window)
    (.cons (reads_offsetClause window) .nil))

theorem reads_unionSide {text : String} {trees : List Tree}
    (reads : dialect.vendor.Reads text trees) :
    dialect.vendor.Reads (dialect.unionSide text) (dialect.unionSideTrees trees) := by
  unfold unionSide unionSideTrees
  cases vendor : dialect.vendor with
  | mysql =>
      rw [vendor] at reads
      exact reads.parens
  | sqlite | postgres =>
      rw [vendor] at reads
      exact reads

theorem reads_united {main : String} {mainTrees : List Tree} {texts : List String}
    {each : List (List Tree)} {window : Window} (reads : dialect.vendor.Reads main mainTrees)
    (branches : List.Forall₂ dialect.vendor.Reads texts each) (plain : window.IsPlain) :
    dialect.vendor.Reads (dialect.united main texts window)
      (dialect.unitedTrees mainTrees each window) := by
  unfold united unitedTrees
  cases branches with
  | nil => exact reads
  | cons head tail =>
      have behind := Vendor.Reads.joinParts
        (List.rel_append (.cons head tail) (reads_windowClauses plain))
      have whole := Vendor.Reads.joinParts (.cons (reads_unionSide reads) (.cons behind .nil))
      simpa [windowTrees] using whole

theorem reads_locked {text : String} {trees : List Tree} {lock : Option Lock}
    (reads : dialect.vendor.Reads text trees) (plain : ∀ kind ∈ lock, Lock.IsPlain kind) :
    dialect.vendor.Reads (dialect.locked text lock) (dialect.lockedTrees trees lock) := by
  cases lock with
  | none => exact reads
  | some kind =>
      have clause : dialect.vendor.Reads (dialect.lockClause kind) (dialect.lockTrees kind) := by
        cases kind with
        | raw sql => exact (plain _ rfl).elim
        | shared | forUpdate =>
            unfold lockClause lockTrees
            cases dialect.vendor <;> dsimp only <;> decide
      have whole := Vendor.Reads.joinParts (.cons reads (.cons clause .nil))
      simpa [lockedTrees, locked] using whole

/-! Predicates and statements -/

section Predicates

variable {words : Vocabulary} {column : Identifier} {operator inner : String} {trees : List Tree}

theorem reads_within (within : column.Within words) :
    dialect.vendor.Reads (dialect.columnRef column) (dialect.columnRefTrees column) :=
  reads_columnRef within.isNamed

theorem reads_compared (within : column.Within words) (compares : words.Compares dialect operator) :
    dialect.vendor.Reads (dialect.columnRef column ++ " " ++ operator)
      (dialect.columnRefTrees column ++ operatorTrees operator) :=
  (reads_within within).blank (reads_operator compares.1)

theorem seam_opening : dialect.vendor.Seam " (" (flatAll [] ++ [.opening]) := by
  cases dialect.vendor <;> decide

theorem seam_in (negated : Bool) :
    dialect.vendor.Seam (" " ++ negation negated ++ "IN (")
      (flatAll (negationTrees negated ++ [wordTree "IN"]) ++ [.opening]) := by
  cases negated <;> cases dialect.vendor <;> decide

theorem seam_is (negated : Bool) :
    dialect.vendor.Seam (" IS " ++ negation negated)
      (flatAll (wordTree "IS" :: negationTrees negated)) := by
  cases negated <;> cases dialect.vendor <;> decide

theorem seam_between (negated : Bool) :
    dialect.vendor.Seam (" " ++ negation negated ++ "BETWEEN ")
      (flatAll (negationTrees negated ++ [wordTree "BETWEEN"])) := by
  cases negated <;> cases dialect.vendor <;> decide

theorem seam_and : dialect.vendor.Seam " AND " (flatAll [wordTree "AND"]) := by
  cases dialect.vendor <;> decide

/-- A column and what is, or is not, among the things in the brackets. -/
theorem reads_membership (negated : Bool) (within : column.Within words)
    (reads : dialect.vendor.Reads inner trees) :
    dialect.vendor.Reads
      (dialect.columnRef column ++ " " ++ negation negated ++ "IN (" ++ inner ++ ")")
      (dialect.columnRefTrees column ++ negationTrees negated ++
        [wordTree "IN", .parens trees]) := by
  have whole := (reads_within within).enclose (seam_in negated) reads
  simpa only [String.append_assoc, List.append_assoc, List.cons_append, List.nil_append] using whole

theorem reads_nullTest (negated : Bool) (within : column.Within words) :
    dialect.vendor.Reads (dialect.columnRef column ++ " IS " ++ negation negated ++ "NULL")
      (dialect.columnRefTrees column ++ wordTree "IS" :: negationTrees negated ++
        [wordTree "NULL"]) := by
  have null : dialect.vendor.Reads "NULL" [wordTree "NULL"] := by
    cases dialect.vendor <;> decide
  have whole := (reads_within within).join (seam_is negated) null
  simpa only [String.append_assoc, List.append_assoc] using whole

theorem reads_range {low high : Operand} (negated : Bool) (within : column.Within words)
    (bounds : low.IsBound ∧ high.IsBound) :
    dialect.vendor.Reads
      (dialect.columnRef column ++ " " ++ negation negated ++ "BETWEEN " ++
        dialect.parameter low ++ " AND " ++ dialect.parameter high)
      (dialect.columnRefTrees column ++ negationTrees negated ++ wordTree "BETWEEN" ::
        dialect.operandTrees low ++ wordTree "AND" :: dialect.operandTrees high) := by
  have column := @reads_within dialect words column within
  have whole := (column.join (seam_between negated) (reads_parameter bounds.1)).join seam_and
    (reads_parameter bounds.2)
  simpa only [String.append_assoc, List.append_assoc, List.cons_append, List.nil_append] using whole

theorem reads_existence (negated : Bool) (reads : dialect.vendor.Reads inner trees) :
    dialect.vendor.Reads (negation negated ++ "EXISTS (" ++ inner ++ ")")
      (negationTrees negated ++ [wordTree "EXISTS", .parens trees]) := by
  have opens : dialect.vendor.Lexes (negation negated ++ "EXISTS (")
      (flatAll (negationTrees negated ++ [wordTree "EXISTS"]) ++ [.opening]) := by
    cases negated <;> cases dialect.vendor <;> decide
  have whole := Vendor.Reads.bracket opens (by cases negated <;> decide) reads
  simpa only [List.append_assoc, List.cons_append, List.nil_append] using whole

end Predicates

theorem reads_main {distinct : Bool} {columns : List Identifier} {table : Option Identifier}
    {joins : List Join} {wheres havings : List (Connective × String)}
    {filters filtered : List (Connective × List Tree)} {groups : List Identifier} {window : Window}
    (front : (∀ column ∈ columns, column.Shown dialect) ∧ (∀ name ∈ table, name.IsNamed) ∧
      ∀ join ∈ joins, join.IsPlain ∧ join.IsKnown dialect.vendor)
    (before : List.Forall₂ dialect.ChainReads wheres filters)
    (named : ∀ column ∈ groups, column.IsNamed)
    (behind : List.Forall₂ dialect.ChainReads havings filtered) (plain : window.IsPlain) :
    dialect.vendor.Reads
      (joinParts ([dialect.selectList distinct columns, dialect.fromClause table,
        dialect.joins joins, headed "WHERE" wheres, dialect.groupClause groups,
        headed "HAVING" havings] ++ dialect.windowClauses window))
      (dialect.mainTrees distinct columns table joins filters groups filtered window) := by
  have wheres := @reads_headed dialect wheres filters "WHERE"
    (by cases dialect.vendor <;> decide) before
  have havings := @reads_headed dialect havings filtered "HAVING"
    (by cases dialect.vendor <;> decide) behind
  have whole := Vendor.Reads.joinParts (List.rel_append
    (List.Forall₂.cons (reads_selectList distinct front.1) (.cons (reads_fromClause front.2.1)
      (.cons (reads_joins front.2.2) (.cons wheres (.cons (reads_groupClause named)
        (.cons havings .nil)))))) (reads_windowClauses plain))
  simpa [mainTrees, windowTrees] using whole

mutual

/-- A query without fragments reads as its trees. -/
theorem reads_select {words : Vocabulary} : ∀ query : Query, query.Plain dialect words →
    dialect.vendor.Reads (dialect.select query) (dialect.selectTrees query)
  | ⟨_, distinct, _, _, wheres, _, havings, _, unions, _, _, _⟩,
      ⟨front, filters, named, filtered, plain, branches, unionPlain, locks, rfl⟩ => by
      rw [select, selectTrees]
      exact reads_locked (reads_united (reads_main front (reads_clauses wheres filters) named
        (reads_clauses havings filtered) plain) (reads_branches unions branches) unionPlain) locks

theorem reads_branches {words : Vocabulary} : ∀ branches : List Branch,
    Branch.Plain dialect words branches →
    List.Forall₂ dialect.vendor.Reads (dialect.branches branches) (dialect.branchTrees branches)
  | [], _ => .nil
  | ⟨query, keepsDuplicates⟩ :: rest, ⟨plain, others⟩ => by
      rw [branches, branchTrees]
      refine .cons ?_ (reads_branches rest others)
      have word : dialect.vendor.Reads (if keepsDuplicates then "UNION ALL " else "UNION ")
          (wordTree "UNION" :: if keepsDuplicates then [wordTree "ALL"] else []) := by
        cases keepsDuplicates <;> cases dialect.vendor <;> decide
      exact word.after (by cases keepsDuplicates <;> decide)
        (reads_unionSide (reads_select query plain))

theorem reads_clauses {words : Vocabulary} : ∀ members : List Clause,
    Clause.Plain dialect words members →
    List.Forall₂ dialect.ChainReads (dialect.clauses members) (dialect.clauseTrees members)
  | [], _ => .nil
  | ⟨connective, predicate⟩ :: rest, ⟨plain, others⟩ => by
      rw [clauses, clauseTrees]
      exact .cons ⟨rfl, reads_predicate predicate plain⟩ (reads_clauses rest others)

theorem reads_predicate {words : Vocabulary} : ∀ predicate : Predicate,
    predicate.Plain dialect words →
    dialect.vendor.Reads (dialect.predicate predicate) (dialect.predicateTrees predicate)
  | .compare column operator operand, ⟨within, compares, bound⟩ => by
      rw [predicate, predicateTrees]
      exact (reads_compared within compares).blank (reads_parameter bound)
  | .compareColumns first operator second, ⟨within, compares, other⟩ => by
      rw [predicate, predicateTrees]
      exact (reads_compared within compares).blank (reads_columnRef other.isNamed)
  | .group members, ⟨_, plain⟩ => by
      rw [predicate, predicateTrees]
      exact (reads_chain (reads_clauses members plain)).parens
  | .compareQuery column operator query, ⟨within, compares, plain⟩ => by
      rw [predicate, predicateTrees]
      have whole := (reads_compared within compares).enclose seam_opening (reads_select query plain)
      rwa [List.append_nil] at whole
  | .inList negated column operands, ⟨within, bound⟩ => by
      rw [predicate, predicateTrees]
      split
      · cases negated <;> cases dialect.vendor <;> decide
      · exact reads_membership negated within (reads_parameters bound)
  | .inQuery negated column query, ⟨within, plain⟩ => by
      rw [predicate, predicateTrees]
      exact reads_membership negated within (reads_select query plain)
  | .isNull negated column, within => by
      rw [predicate, predicateTrees]
      exact reads_nullTest negated within
  | .between negated column low high, ⟨within, bounds⟩ => by
      rw [predicate, predicateTrees]
      exact reads_range negated within bounds
  | .exists negated query, plain => by
      rw [predicate, predicateTrees]
      exact reads_existence negated (reads_select query plain)
  | .compareDate part column operator operand, ⟨within, compares, bound⟩ => by
      rw [predicate, predicateTrees]
      exact ((reads_datePart part (reads_within within)).blank (reads_operator compares.1)).blank
        (reads_parameter bound)

end

end Dialect

end SqlToolkit
