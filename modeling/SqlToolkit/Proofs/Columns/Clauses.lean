import SqlToolkit.Proofs.Reading.Statements
import SqlToolkit.Schema.Definition
/-!
The clauses of a column declaration, as a reader of SQL counts them: what is in quotes or in
parentheses is no clause, and neither is the value of a default.
-/

namespace SqlToolkit

inductive ColumnClause where
  | null
  | notNull
  | default
  | primaryKey
  | unsigned
  deriving DecidableEq, Repr

/-- The clause that a tree is by itself. -/
def Tree.clause? (tree : Tree) : Option ColumnClause :=
  if tree.isWord "null" then some .null
  else if tree.isWord "unsigned" then some .unsigned
  else if tree.isWord "default" then some .default
  else none

/-- The clause that two trees are together; a default takes whatever stands behind it. -/
def Tree.clauseWith? (first second : Tree) : Option ColumnClause :=
  if first.isWord "default" then some .default
  else if first.isWord "not" && second.isWord "null" then some .notNull
  else if first.isWord "primary" && second.isWord "key" then some .primaryKey
  else none

def columnClauses : List Tree → List ColumnClause
  | [] => []
  | [last] => last.clause?.toList
  | first :: second :: rest =>
      match first.clauseWith? second with
      | some clause => clause :: columnClauses rest
      | none => first.clause?.toList ++ columnClauses (second :: rest)

/-- The words that begin a clause of a declaration. -/
def declarationWords : List String :=
  ["null", "not", "default", "primary", "unsigned"]

/-- The trees are these clauses, whatever stands behind them. -/
def AmountTo (trees : List Tree) (clauses : List ColumnClause) : Prop :=
  ∀ rest, columnClauses (trees ++ rest) = clauses ++ columnClauses rest

namespace AmountTo

variable {left right trees : List Tree} {first second clauses : List ColumnClause}

theorem nil : AmountTo [] [] :=
  fun _ => rfl

theorem append (amount : AmountTo left first) (next : AmountTo right second) :
    AmountTo (left ++ right) (first ++ second) := by
  intro rest
  rw [List.append_assoc, amount, next, List.append_assoc]

theorem columnClauses_eq (amount : AmountTo trees clauses) : columnClauses trees = clauses := by
  simpa [columnClauses] using amount []

/-- A tree that needs no other one behind it. -/
theorem single {tree : Tree} (alone : tree.isWord "default" = false ∧ tree.isWord "not" = false ∧
      tree.isWord "primary" = false) : AmountTo [tree] tree.clause?.toList := by
  obtain ⟨default, not, primary⟩ := alone
  intro rest
  cases rest with
  | nil => simp [columnClauses]
  | cons next rest => simp [columnClauses, Tree.clauseWith?, default, not, primary]

theorem pair {tree next : Tree} {clause : ColumnClause}
    (both : tree.clauseWith? next = some clause) : AmountTo [tree, next] [clause] := by
  intro rest
  simp [columnClauses, both]

theorem default (value : Tree) : AmountTo [wordTree "DEFAULT", value] [.default] :=
  pair (if_pos (by decide))

/-- Trees without a word that begins a clause. -/
theorem of_avoid (avoid : Avoid declarationWords trees) : AmountTo trees [] := by
  induction trees with
  | nil => exact nil
  | cons tree trees ih =>
      obtain ⟨others, rest⟩ := List.forall_mem_cons.mp avoid
      simp only [declarationWords, List.forall_mem_cons] at others
      obtain ⟨null, not, default, primary, unsigned, -⟩ := others
      have none : tree.clause? = none := by
        simp [Tree.clause?, null, default, unsigned]
      have amount := single ⟨default, not, primary⟩
      rw [none] at amount
      exact amount.append (ih rest)

end AmountTo

/-! Texts -/

theorem startsBroken_append {left : String} (nonempty : left ≠ "") (right : String) :
    startsBroken (left ++ right) = startsBroken left := by
  have characters : left.toList ≠ [] := by simpa using nonempty
  rw [startsBroken, startsBroken, String.toList_append, List.head?_append,
    List.head?_eq_some_head characters]
  rfl

theorem concat_append (first second : List String) :
    "".intercalate (first ++ second) = "".intercalate first ++ "".intercalate second := by
  have flat : ∀ texts : List String,
      ("".intercalate texts).toList = (texts.map String.toList).flatten := by
    intro texts
    rw [String.toList_intercalate]
    exact Vendor.intercalate_nil _
  rw [← String.toList_inj, String.toList_append, flat, flat, flat, List.map_append,
    List.flatten_append]

/-- A text that is read as the given clauses. -/
def Vendor.Declares (vendor : Vendor) (text : String) (clauses : List ColumnClause) : Prop :=
  ∃ trees, vendor.Reads text trees ∧ AmountTo trees clauses

namespace Vendor.Declares

variable {vendor : Vendor} {left right text front inner : String} {trees : List Tree}
  {first second clauses : List ColumnClause}

theorem empty : vendor.Declares "" [] :=
  ⟨[], Lexes.empty, .nil⟩

theorem of_avoid (trees : List Tree) (reads : vendor.Reads text trees)
    (avoid : Avoid declarationWords trees) : vendor.Declares text [] :=
  ⟨trees, reads, .of_avoid avoid⟩

theorem append (declares : vendor.Declares left first) (next : vendor.Declares right second)
    (parted : Parted left right) : vendor.Declares (left ++ right) (first ++ second) := by
  obtain ⟨trees, reads, amount⟩ := declares
  obtain ⟨others, readsNext, amountNext⟩ := next
  exact ⟨trees ++ others, reads.append readsNext parted, amount.append amountNext⟩

/-- Words that begin no clause. -/
theorem words (plain : ∀ part ∈ text.toList.splitOn ' ', part ≠ [] ∧
      part.all Char.isAlpha = true ∧ String.ofList (part.map Char.toLower) ∉ declarationWords) :
    vendor.Declares text [] := by
  refine of_avoid _ (Dialect.reads_words fun part member => ?_) fun tree member word listed => ?_
  · obtain ⟨filled, alpha, -⟩ := plain part member
    exact ⟨filled, alpha⟩
  · obtain ⟨part, among, rfl⟩ := List.mem_map.mp member
    refine decide_eq_false fun same => (plain part among).2.2 ?_
    rwa [same, String.ofList_toList]

/-- A text that ends in an opening bracket, and what stands in the bracket: that is no clause. -/
theorem bracket (front : String) (trees : List Tree) {within : List Tree}
    (opens : vendor.Lexes front (flatAll trees ++ [.opening])) (ends : endsBroken front = true)
    (avoid : Avoid declarationWords trees) (reads : vendor.Reads inner within) :
    vendor.Declares (front ++ inner ++ ")") [] :=
  of_avoid _ (Reads.bracket opens ends reads) (avoid.append (.parens .nil))

end Vendor.Declares

/-- A text that is read as the given clauses behind any other one. -/
structure Vendor.Continues (vendor : Vendor) (text : String) (clauses : List ColumnClause) :
    Prop where
  declares : vendor.Declares text clauses
  starts : startsBroken text = true

namespace Vendor.Continues

variable {vendor : Vendor} {front text word : String} {trees : List Tree}
  {first clauses : List ColumnClause}

theorem empty : vendor.Continues "" [] :=
  ⟨.empty, by decide⟩

theorem of_reads (reads : vendor.Reads text trees) (amount : AmountTo trees clauses)
    (starts : startsBroken text = true) : vendor.Continues text clauses :=
  ⟨⟨trees, reads, amount⟩, starts⟩

theorem onlyIf (given : Bool) (continues : vendor.Continues text clauses) :
    vendor.Continues (if given then text else "") (if given then clauses else []) := by
  cases given with
  | true => exact continues
  | false => exact empty

/-- Words in front of what is given. -/
theorem ofOption {α : Type} (value : Option α) (text : α → String) (clauses : List ColumnClause)
    (seam : vendor.Seam word (flatAll trees))
    (each : ∀ x ∈ value, ∃ inner, vendor.Reads (text x) inner ∧ AmountTo (trees ++ inner) clauses) :
    vendor.Continues ((value.map (word ++ text ·)).getD "")
      (if value.isSome then clauses else []) := by
  cases value with
  | none => exact empty
  | some x =>
      obtain ⟨inner, reads, amount⟩ := each x rfl
      have starts : startsBroken (word ++ text x) = true := by
        rw [startsBroken_append seam.nonempty]
        exact seam.starts
      exact of_reads (Reads.after seam.lexes seam.ends reads) amount starts

/-- Texts behind a first one, each of which begins something new. -/
theorem concat {α : Type} {text : α → String} {clauses : α → List ColumnClause} {list : List α}
    (declares : vendor.Declares front first)
    (each : ∀ x ∈ list, vendor.Continues (text x) (clauses x)) :
    vendor.Declares (front ++ "".intercalate (list.map text)) (first ++ list.flatMap clauses) := by
  induction list generalizing front first with
  | nil => simpa using declares
  | cons x list ih =>
      obtain ⟨⟨next, starts⟩, others⟩ := List.forall_mem_cons.mp each
      have whole := ih (declares.append next (.inr starts)) others
      rw [List.map_cons, ← List.singleton_append, concat_append, List.flatMap_cons]
      simpa [String.append_assoc] using whole

end Vendor.Continues

end SqlToolkit
