import SqlToolkit.Proofs.Reading.Chains
import SqlToolkit.Proofs.Reading.Predicates
/-!
Lists of conditions, and the clauses of a statement that hold them. A list is read item by item as
it was put together, groups within groups, and no clause runs into the next.
-/

namespace SqlToolkit

/-- The words that `awaits` looks at. -/
def connectiveWords : List String :=
  ["and", "or", "between"]

namespace Dialect

variable {dialect : Dialect}

/-! Connectives -/

/-- Whether a BETWEEN waits for its AND behind trees of one condition. -/
def scan (ranging : Bool) : List Tree → Option Bool
  | [] => some ranging
  | tree :: rest => (awaits ranging tree).bind fun after => scan after rest

theorem scan_append (ranging : Bool) (left right : List Tree) :
    scan ranging (left ++ right) = (scan ranging left).bind fun after => scan after right := by
  induction left generalizing ranging with
  | nil => rfl
  | cons tree left ih =>
      rw [List.cons_append, scan, scan, Option.bind_assoc]
      exact congrArg _ (funext ih)

theorem scan_of_avoid (ranging : Bool) {trees : List Tree}
    (avoid : Avoid connectiveWords trees) : scan ranging trees = some ranging := by
  induction trees generalizing ranging with
  | nil => rfl
  | cons tree trees ih =>
      have alone := avoid tree List.mem_cons_self
      simp only [connectiveWords, List.forall_mem_cons] at alone
      rw [scan, awaits]
      simp only [alone, Bool.false_eq_true, if_false, Option.bind_some]
      exact ih ranging fun other member => avoid other (List.mem_cons_of_mem tree member)

/-- Trees of one condition are kept together. -/
theorem splitChain_of_scan {ranging after : Bool} {item : List Note}
    (whole : scan ranging (item.map Prod.fst) = some after) (rest : List Note) :
    splitChain ranging (item ++ rest) =
      (item ++ (splitChain after rest).1, (splitChain after rest).2) := by
  induction item generalizing ranging with
  | nil =>
      cases whole
      rfl
  | cons note item ih =>
      rw [List.map_cons, scan] at whole
      obtain ⟨next, waits, whole⟩ := Option.bind_eq_some_iff.mp whole
      rw [List.cons_append, splitChain, waits]
      simp [ih whole]

/-! Notes -/

@[simp] theorem notes_append (left right : List Tree) :
    dialect.notes (left ++ right) = dialect.notes left ++ dialect.notes right := by
  induction left with
  | nil => rw [notes]; rfl
  | cons first left ih => simp [notes, ih]

@[simp] theorem fst_notes (trees : List Tree) : (dialect.notes trees).map Prod.fst = trees := by
  induction trees with
  | nil => rw [notes]; rfl
  | cons first trees ih => simp [notes, ih]

/-- Trees that are one condition. -/
def IsItem (trees : List Tree) : Prop :=
  scan false trees = some false

/-- The conditions of a list, each behind its connective. -/
theorem splitChain_chainTrees (connective : Connective) {first : List Tree} (whole : IsItem first)
    {clauses : List (Connective × List Tree)} (items : ∀ clause ∈ clauses, IsItem clause.2) :
    splitChain false (dialect.notes (chainTrees ((connective, first) :: clauses))) =
      (dialect.notes first, clauses.map fun (connective, trees) =>
        (connective, dialect.notes trees)) := by
  rw [chainTrees, notes_append, splitChain_of_scan (by rw [fst_notes]; exact whole)]
  have behind : splitChain false
      (dialect.notes (clauses.flatMap fun (connective, trees) =>
        wordTree connective.text :: trees)) =
      ([], clauses.map fun (connective, trees) => (connective, dialect.notes trees)) := by
    induction clauses with
    | nil => rw [List.flatMap_nil, notes]; rfl
    | cons clause clauses ih =>
        obtain ⟨kind, trees⟩ := clause
        have later := ih fun clause member => items clause (List.mem_cons_of_mem _ member)
        have item := items (kind, trees) List.mem_cons_self
        have separates : awaits false (wordTree kind.text) = none := by
          cases kind <;> decide
        have named : (if (wordTree kind.text).isWord "or" then Connective.or else .and) = kind := by
          cases kind <;> decide
        rw [List.flatMap_cons, List.cons_append, notes, notes_append, splitChain, separates,
          splitChain_of_scan (by rw [fst_notes]; exact item), later]
        simp [named]
  rw [behind]
  simp

/-! Words that do not stand in conditions -/

/-- The words that conditions are written with, apart from operators and BETWEEN. -/
def conditionWords : List String :=
  ["in", "is", "not", "null", "exists", "0", "1", "?", "%s", "strftime", "extract", "date", "day",
    "month", "year"]

/-- Words that stand in no condition, except perhaps for a BETWEEN. -/
structure Foreign (words : List String) : Prop where
  conditions : ∀ word ∈ conditionWords, word ∉ words
  operators : ∀ vendor : Vendor, ∀ operator ∈ vendor.operators, operator ≠ "between" →
    ∀ part ∈ operator.toList.splitOn ' ', String.ofList part ∉ words

theorem foreign_connectiveWords : Foreign connectiveWords where
  conditions := by decide
  operators := by
    intro vendor
    cases vendor <;> decide

theorem foreign_clauseWords : Foreign clauseWords where
  conditions := by decide
  operators := by
    intro vendor
    cases vendor <;> decide

namespace Foreign

variable {words : List String}

theorem word {right : List Tree} (foreign : Foreign words) {word : String}
    (used : Text.asciiLower word ∈ conditionWords) (rest : Avoid words right) :
    Avoid words (wordTree word :: right) :=
  .word (foreign.conditions _ used) rest

theorem comparison {operator : String} (foreign : Foreign words)
    (compares : Vocabulary.legible.Compares dialect operator) :
    Avoid words (operatorTrees operator) := by
  refine avoid_operatorTrees (foreign.operators dialect.vendor _ ?_ compares.2)
  simpa [Vendor.knowsOperator] using compares.1

theorem column (_ : Foreign words) {name : Identifier} (legible : name.Within .legible) :
    Avoid words (dialect.columnRefTrees name) := by
  rw [columnRefTrees_of_legible legible]
  exact avoid_pathTreesOf _

theorem operand (foreign : Foreign words) {right : Operand} (bound : right.IsBound) :
    Avoid words (dialect.operandTrees right) := by
  rw [operandTrees_of_isBound bound]
  exact foreign.word (by cases dialect.marker <;> decide) .nil

theorem negation (foreign : Foreign words) (negated : Bool) :
    Avoid words (negationTrees negated) := by
  cases negated with
  | false => exact .nil
  | true => exact foreign.word (by decide) .nil

theorem datePart (foreign : Foreign words) (part : DatePart) {trees : List Tree}
    (avoid : Avoid words trees) : Avoid words (dialect.datePartTrees part trees) := by
  unfold datePartTrees
  split
  · exact foreign.word (by decide) (.parens .nil)
  · exact foreign.word (by cases part <;> decide) (.parens .nil)
  · split
    · exact avoid.append (.mark (.mark (foreign.word (by decide) .nil)))
    · exact foreign.word (by decide) (.parens .nil)

theorem predicate (foreign : Foreign words) : ∀ {predicate : Predicate},
    predicate.Plain dialect .legible → (∀ negated column low high,
      predicate ≠ .between negated column low high) →
    Avoid words (dialect.predicateTrees predicate)
  | .compare _ _ _, ⟨legible, compares, bound⟩, _ => by
      rw [predicateTrees]
      exact ((foreign.column legible).append (foreign.comparison compares)).append
        (foreign.operand bound)
  | .compareColumns _ _ _, ⟨legible, compares, other⟩, _ => by
      rw [predicateTrees]
      exact ((foreign.column legible).append (foreign.comparison compares)).append
        (foreign.column other)
  | .group _, _, _ => by
      rw [predicateTrees]
      exact .parens .nil
  | .compareQuery _ _ _, ⟨legible, compares, _⟩, _ => by
      rw [predicateTrees]
      exact ((foreign.column legible).append (foreign.comparison compares)).append (.parens .nil)
  | .inList negated _ operands, ⟨legible, _⟩, _ => by
      rw [predicateTrees]
      split
      · refine foreign.word (by cases negated <;> decide) (.cons (fun _ _ => rfl) ?_)
        exact foreign.word (by decide) .nil
      · exact ((foreign.column legible).append (foreign.negation negated)).append
          (foreign.word (by decide) (.parens .nil))
  | .inQuery negated _ _, ⟨legible, _⟩, _ => by
      rw [predicateTrees]
      exact ((foreign.column legible).append (foreign.negation negated)).append
        (foreign.word (by decide) (.parens .nil))
  | .isNull negated _, legible, _ => by
      rw [predicateTrees]
      exact ((foreign.column legible).append
        (foreign.word (by decide) (foreign.negation negated))).append
        (foreign.word (by decide) .nil)
  | .between _ _ _ _, _, other => absurd rfl (other _ _ _ _)
  | .exists negated _, _, _ => by
      rw [predicateTrees]
      exact (foreign.negation negated).append (foreign.word (by decide) (.parens .nil))
  | .compareDate part _ _ _, ⟨legible, compares, bound⟩, _ => by
      rw [predicateTrees]
      exact ((foreign.datePart part (foreign.column legible)).append
        (foreign.comparison compares)).append (foreign.operand bound)

end Foreign

/-- A predicate holds no words that begin a clause. -/
theorem avoid_clauseWords {predicate : Predicate} (plain : predicate.Plain dialect .legible) :
    Avoid clauseWords (dialect.predicateTrees predicate) := by
  have foreign := foreign_clauseWords
  by_cases between : ∃ negated column low high, predicate = .between negated column low high
  · obtain ⟨negated, column, low, high, rfl⟩ := between
    obtain ⟨legible, lowBound, highBound⟩ := plain
    rw [predicateTrees]
    exact (((foreign.column legible).append (foreign.negation negated)).append
      (.word (by decide) (foreign.operand lowBound))).append
      (.word (by decide) (foreign.operand highBound))
  · exact foreign.predicate plain fun negated column low high same =>
      between ⟨negated, column, low, high, same⟩

/-- A predicate is one condition; the AND of a BETWEEN does not part it. -/
theorem isItem_predicate {predicate : Predicate} (plain : predicate.Plain dialect .legible) :
    IsItem (dialect.predicateTrees predicate) := by
  have foreign := foreign_connectiveWords
  by_cases between : ∃ negated column low high, predicate = .between negated column low high
  · obtain ⟨negated, column, low, high, rfl⟩ := between
    obtain ⟨legible, lowBound, highBound⟩ := plain
    have subject : Avoid connectiveWords (dialect.columnRefTrees column) := foreign.column legible
    have lower : Avoid connectiveWords (dialect.operandTrees low) := foreign.operand lowBound
    have upper : Avoid connectiveWords (dialect.operandTrees high) := foreign.operand highBound
    have front := scan_of_avoid false (subject.append (foreign.negation negated))
    have lowest := scan_of_avoid true lower
    have highest := scan_of_avoid false upper
    have opens : awaits false (wordTree "BETWEEN") = some true := by decide
    have closes : awaits true (wordTree "AND") = some false := by decide
    rw [predicateTrees, IsItem, List.append_assoc, scan_append, front, Option.bind_some,
      scan_append, scan, opens, Option.bind_some, lowest, Option.bind_some, scan, closes,
      Option.bind_some, highest]
  · exact scan_of_avoid false (foreign.predicate plain fun negated column low high same =>
      between ⟨negated, column, low, high, same⟩)

/-! Conditions are read as the predicates that they were written for -/

theorem readItem_of_readSimple {trees : List Tree} {condition : Condition}
    (read : dialect.readSimple trees = some condition) :
    dialect.readItem (dialect.notes trees) = some condition := by
  unfold readItem
  split
  · rename_i inner reading same
    have single : trees = [.parens inner] := by
      rw [← @fst_notes dialect trees, same]
      rfl
    rw [single] at read
    cases read
  · rw [fst_notes]
    exact read

/-- A predicate that is no group is read as what it was given as. -/
theorem readSimple_predicate : ∀ {predicate : Predicate}, predicate.Plain dialect .legible →
    (∀ members, predicate ≠ .group members) →
    dialect.readSimple (dialect.predicateTrees predicate) = some predicate.condition
  | .compare _ operator _, ⟨legible, compares, bound⟩, _ => by
      have ends : Ends [wordTree dialect.marker.text] := by
        rintro _ ⟨⟩
        exact isTerm_marker
      rw [predicateTrees, operandTrees_of_isBound bound,
        readSimple_comparison legible compares ends]
      exact if_pos isParameter_marker
  | .compareColumns _ operator second, ⟨legible, compares, other⟩, _ => by
      have ends : Ends (dialect.pathTrees second.text) := by
        obtain ⟨first, path, same, -⟩ := @pathTrees_eq_cons dialect second.text
        rw [same]
        rintro _ ⟨⟩
        exact isTerm_segmentTree first
      rw [predicateTrees, columnRefTrees_of_legible other,
        readSimple_comparison legible compares ends, readComparison_pathTrees]
      rfl
  | .group _, _, other => absurd rfl (other _)
  | .compareQuery _ operator query, ⟨legible, compares, _⟩, _ => by
      have ends : Ends [.parens (dialect.selectTrees query)] := by
        rintro _ ⟨⟩
        rfl
      rw [predicateTrees, readSimple_comparison legible compares ends]
      exact if_pos (isSelect_selectTrees query)
  | .inList negated column operands, ⟨legible, bound⟩, _ => by
      rw [predicateTrees, Predicate.condition]
      split
      · cases negated <;> rfl
      · rename_i some
        rw [readSimple_membership negated legible, readMembers, isSelect_parametersTrees bound some,
          countParameters_parametersTrees bound some]
        rfl
  | .inQuery negated _ query, ⟨legible, _⟩, _ => by
      rw [predicateTrees, readSimple_membership negated legible]
      exact if_pos (isSelect_selectTrees query)
  | .isNull negated _, legible, _ => by
      rw [predicateTrees, readSimple_nullTest negated legible]
      rfl
  | .between negated _ _ _, ⟨legible, bounds⟩, _ => by
      rw [predicateTrees, readSimple_range negated legible bounds]
      rfl
  | .exists negated query, _, _ => by
      rw [predicateTrees, readSimple_existence negated (isSelect_selectTrees query)]
      rfl
  | .compareDate part _ _ _, ⟨legible, compares, bound⟩, _ => by
      rw [predicateTrees, readSimple_dateComparison part legible compares bound]
      rfl

/-- Conditions that are read one by one are read as a list. -/
theorem readChain_chainTrees {members : List Clause}
    (plain : Clause.Plain dialect .legible members) (nonempty : members ≠ [])
    (read : ∀ clause ∈ members,
      dialect.readItem (dialect.notes (dialect.predicateTrees clause.predicate)) =
        some clause.predicate.condition) :
    dialect.readChain (dialect.notes (chainTrees (dialect.clauseTrees members))) =
      some (disjuncts (Clause.conditions members)) := by
  have each : ∀ {members : List Clause}, Clause.Plain dialect .legible members →
      ∀ clause ∈ dialect.clauseTrees members, IsItem clause.2 := by
    intro members plain
    induction members with
    | nil => rw [clauseTrees]; rintro _ ⟨⟩
    | cons clause members ih =>
        obtain ⟨connective, predicate⟩ := clause
        rw [clauseTrees]
        exact List.forall_mem_cons.mpr ⟨isItem_predicate plain.1, ih plain.2⟩
  have later : ∀ {members : List Clause}, (∀ clause ∈ members,
      dialect.readItem (dialect.notes (dialect.predicateTrees clause.predicate)) =
        some clause.predicate.condition) →
      ((dialect.clauseTrees members).map fun part =>
        (part.1, dialect.notes part.2)).mapM (fun part =>
          do return (part.1, ← dialect.readItem part.2)) = some (Clause.conditions members) := by
    intro members read
    induction members with
    | nil => rw [clauseTrees]; rfl
    | cons clause members ih =>
        obtain ⟨connective, predicate⟩ := clause
        have first := read _ List.mem_cons_self
        have rest := ih fun clause member => read clause (List.mem_cons_of_mem _ member)
        rw [clauseTrees, Clause.conditions, List.map_cons, List.mapM_cons, rest]
        simp [first]
  cases members with
  | nil => exact absurd rfl nonempty
  | cons clause members =>
      obtain ⟨connective, predicate⟩ := clause
      have first := read _ List.mem_cons_self
      have rest := later fun clause member => read clause (List.mem_cons_of_mem _ member)
      rw [clauseTrees, readChain, splitChain_chainTrees connective (isItem_predicate plain.1)
        (each plain.2)]
      exact Option.bind_eq_some_iff.mpr ⟨_, first, Option.bind_eq_some_iff.mpr ⟨_, rest, rfl⟩⟩

mutual

theorem readItem_predicate : ∀ predicate : Predicate, predicate.Plain dialect .legible →
    dialect.readItem (dialect.notes (dialect.predicateTrees predicate)) = some predicate.condition
  | .group members, ⟨nonempty, plain⟩ => by
      have inner := readChain_chainTrees plain nonempty (readItem_clauses members plain)
      rw [predicateTrees, notes, notes, noted, readItem, inner, Predicate.condition]
      rfl
  | .compare _ _ _, plain | .compareColumns _ _ _, plain | .compareQuery _ _ _, plain
  | .inList _ _ _, plain | .inQuery _ _ _, plain | .isNull _ _, plain | .between _ _ _ _, plain
  | .exists _ _, plain | .compareDate _ _ _ _, plain =>
      readItem_of_readSimple (readSimple_predicate plain nofun)

theorem readItem_clauses : ∀ members : List Clause, Clause.Plain dialect .legible members →
    ∀ clause ∈ members,
      dialect.readItem (dialect.notes (dialect.predicateTrees clause.predicate)) =
        some clause.predicate.condition
  | [], _ => nofun
  | ⟨_, predicate⟩ :: members, ⟨plain, others⟩ =>
      List.forall_mem_cons.mpr ⟨readItem_predicate predicate plain, readItem_clauses members others⟩

end

/-- A list of predicates is read as it was put together, groups within groups. -/
theorem readChain_clauses {members : List Clause} (plain : Clause.Plain dialect .legible members)
    (nonempty : members ≠ []) :
    dialect.readChain (dialect.notes (chainTrees (dialect.clauseTrees members))) =
      some (disjuncts (Clause.conditions members)) :=
  readChain_chainTrees plain nonempty (readItem_clauses members plain)

end Dialect

end SqlToolkit
