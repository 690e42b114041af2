import SqlToolkit.Proofs.Reading.Conditions
/-!
The reader of conditions gives back the predicates that a dialect has written. Names come back
without the prefix, operators in the letters in which they were given.
-/

namespace SqlToolkit

/-! Names and their segments -/

theorem intercalate_segmentsChars (name : List Char) :
    ['.'].intercalate (segmentsChars name) = name := by
  rw [Dialect.segmentsChars_eq_splitOn]
  exact List.intercalate_splitOn '.'

theorem intercalate_segments (name : String) : ".".intercalate (segments name) = name := by
  rw [← String.toList_inj, String.toList_intercalate, segments, List.map_map,
    Dialect.toList_comp_ofList, List.map_id]
  exact intercalate_segmentsChars name.toList

/-- Columns without an alias, and operators that are no BETWEEN with one operand. -/
def Vocabulary.legible : Vocabulary where
  column := fun name => splitAlias name = none
  operator := fun operator => Text.asciiLower operator ≠ "between"
  equality := by decide

/-- A tree that may stand behind a column: the beginning of keywords or of an operator. -/
def Tree.isRelator : Tree → Bool
  | .leaf (.word _) => true
  | .leaf (.sign _) => true
  | _ => false

namespace Dialect

variable {dialect : Dialect}

theorem columnName_prefixed (name : String) :
    dialect.columnName (dialect.prefixed (segments name)) = some name := by
  have whole := intercalate_segments name
  cases parts : segments name with
  | nil => exact absurd (List.map_eq_nil_iff.mp parts) (segmentsChars_ne_nil _)
  | cons table rest =>
      rw [parts] at whole
      cases rest with
      | nil => simpa [prefixed, columnName] using whole
      | cons next rest => simpa [prefixed, columnName] using whole

theorem readSegment_segmentTree (name : String) :
    dialect.readSegment (dialect.segmentTree name) = some name := by
  unfold segmentTree
  split
  · rename_i star
    rw [star]
    rfl
  · simp [readSegment]

theorem readPath_pathTreesOf (first : String) (segments : List String) {rest : List Tree}
    (ends : ∀ more, rest ≠ markTree '.' :: more) :
    dialect.readPath (dialect.pathTreesOf (first :: segments) ++ rest) =
      some (first :: segments, rest) := by
  induction segments generalizing first with
  | nil =>
      rw [pathTreesOf, List.map_singleton, List.intercalate_singleton, List.singleton_append,
        readPath, readSegment_segmentTree]
      · rfl
      · exact ends
  | cons next segments ih =>
      have behind := ih next
      rw [pathTreesOf, List.map_cons, List.map_cons, List.intercalate_cons_cons]
      change dialect.readPath (dialect.segmentTree first :: markTree '.' ::
        (dialect.pathTreesOf (next :: segments) ++ rest)) = _
      rw [markTree, readPath, readSegment_segmentTree, behind]
      rfl

theorem prefixed_ne_nil (name : String) : dialect.prefixed (segments name) ≠ [] := by
  cases parts : segments name with
  | nil => exact absurd (List.map_eq_nil_iff.mp parts) (segmentsChars_ne_nil _)
  | cons table rest => cases rest <;> simp [prefixed]

theorem readColumn_pathTrees (name : String) {rest : List Tree}
    (ends : ∀ more, rest ≠ markTree '.' :: more) :
    dialect.readColumn (dialect.pathTrees name ++ rest) = some (name, rest) := by
  have named := @columnName_prefixed dialect name
  unfold readColumn pathTrees
  cases parts : dialect.prefixed (segments name) with
  | nil => exact absurd parts (prefixed_ne_nil name)
  | cons first segments =>
      rw [readPath_pathTreesOf first segments ends]
      rw [parts] at named
      simp [named]

theorem columnRefTrees_of_legible {column : Identifier} (legible : column.Within .legible) :
    dialect.columnRefTrees column = dialect.pathTrees column.text := by
  cases column with
  | named name =>
      have single : splitAlias name = none := legible
      rw [columnRefTrees, columnTrees, single]
      rfl
  | verbatim sql => exact legible.elim

/-! What a relation is about -/

theorem pathTrees_eq_cons (name : String) :
    ∃ first rest, dialect.pathTrees name = dialect.segmentTree first :: rest ∧
      ∀ inner more, rest ≠ .parens inner :: more := by
  unfold pathTrees
  cases parts : dialect.prefixed (segments name) with
  | nil => exact absurd parts (prefixed_ne_nil name)
  | cons first segments =>
      cases segments with
      | nil => exact ⟨first, [], rfl, nofun⟩
      | cons next segments =>
          refine ⟨first, markTree '.' :: dialect.pathTreesOf (next :: segments), ?_, nofun⟩
          rw [pathTreesOf, List.map_cons, List.map_cons, List.intercalate_cons_cons]
          rfl

theorem readSubject_pathTrees (name : String) {next : Tree} (rest : List Tree)
    (undotted : next ≠ markTree '.') (unopened : ∀ inner, next ≠ .parens inner) :
    dialect.readSubject (dialect.pathTrees name ++ next :: rest) =
      dialect.readCast name (next :: rest) := by
  have ends : ∀ more, next :: rest ≠ markTree '.' :: more := by
    rintro more ⟨⟩
    exact undotted rfl
  have column := @readColumn_pathTrees dialect name _ ends
  obtain ⟨first, path, same, bare⟩ := @pathTrees_eq_cons dialect name
  rw [same] at column ⊢
  rw [List.cons_append, readSubject, ← List.cons_append, column]
  · rfl
  · intro function inner more opens
    cases path with
    | nil =>
        cases opens
        exact unopened _ rfl
    | cons second path =>
        cases opens
        exact bare _ _ rfl

theorem readSubject_column (name : String) {relator : Tree} (relates : relator.isRelator = true)
    (rest : List Tree) :
    dialect.readSubject (dialect.pathTrees name ++ relator :: rest) =
      some (.column name, relator :: rest) := by
  rw [readSubject_pathTrees name rest (by rintro rfl; cases relates)
    (by rintro inner rfl; cases relates)]
  unfold readCast
  split
  · rename_i cast
    cases cast
    cases relates
  · rfl

/-! A part of a date in a column -/

theorem findPart_format (part : DatePart) :
    (findPart fun known => (datePartFormat known).toList = (datePartFormat part).toList) =
      some part := by
  cases part <;> decide

theorem findPart_upper (part : DatePart) :
    (findPart fun known =>
      (wordTree (Text.asciiUpper (datePartName part))).isWord (datePartName known)) =
      some part := by
  cases part <;> decide

theorem findPart_name (part : DatePart) :
    (findPart fun known => (wordTree (datePartName part)).isWord (datePartName known)) =
      some part := by
  cases part <;> decide

theorem readSubject_datePart (part : DatePart) (name : String) (rest : List Tree) :
    dialect.readSubject (dialect.datePartTrees part (dialect.pathTrees name) ++ rest) =
      some (.datePart part name, rest) := by
  have column := @readColumn_pathTrees dialect name [] nofun
  rw [List.append_nil] at column
  have function : ∀ (word : Tree) (inner : List Tree),
      dialect.readFunction word inner = some (part, dialect.pathTrees name) →
      dialect.readSubject ([word, .parens inner] ++ rest) =
        some (.datePart part name, rest) := by
    intro word inner taken
    simp [readSubject, taken, column]
  unfold datePartTrees
  cases vendor : dialect.vendor with
  | sqlite =>
      refine function _ _ ?_
      simp only [readFunction, vendor, markTree]
      rw [if_pos (by decide), findPart_format]
      rfl
  | mysql =>
      refine function _ _ ?_
      simp only [readFunction, vendor]
      rw [findPart_upper]
      rfl
  | postgres =>
      have call : dialect.readFunction (wordTree "extract")
          (wordTree (datePartName part) :: wordTree "from" :: dialect.pathTrees name) =
            some (part, dialect.pathTrees name) := by
        simp only [readFunction, vendor]
        rw [if_pos (by decide), findPart_name]
        rfl
      cases part with
      | date =>
          change dialect.readSubject
            ((dialect.pathTrees name ++ [markTree ':', markTree ':', wordTree "date"]) ++ _) = _
          rw [List.append_assoc, List.cons_append, readSubject_pathTrees name _ (by rintro ⟨⟩)
            (by rintro inner ⟨⟩)]
          simp [readCast, vendor, markTree, wordTree, Tree.isWord]
      | day | month | year => exact function _ _ call

/-! Operators and keywords -/

/-- A list of trees that goes on with something else than words of letters. -/
def Ends (rest : List Tree) : Prop :=
  ∀ tree ∈ rest.head?, tree.isTerm = false

theorem readPhrase_words {parts : List (List Char)}
    (words : ∀ part ∈ parts, part ≠ [] ∧ part.all Char.isAlpha = true) (nonempty : parts ≠ [])
    {rest : List Tree} (ends : Ends rest) :
    readPhrase ((parts.map fun part => .leaf (.word part)) ++ rest) =
      (" ".intercalate (parts.map String.ofList), rest) := by
  have terms : ∀ tree ∈ parts.map fun part => Tree.leaf (.word part), tree.isTerm = true := by
    intro tree member
    obtain ⟨part, listed, rfl⟩ := List.mem_map.mp member
    exact (words part listed).2
  have kept : rest.takeWhile Tree.isTerm = [] ∧ rest.dropWhile Tree.isTerm = rest := by
    cases rest with
    | nil => exact ⟨rfl, rfl⟩
    | cons next rest => simp [ends next rfl]
  cases parts with
  | nil => exact absurd rfl nonempty
  | cons first others =>
      rw [List.map_cons] at terms ⊢
      rw [List.cons_append, readPhrase, ← List.cons_append, List.takeWhile_append_of_pos terms,
        List.dropWhile_append_of_pos terms, kept.1, kept.2, List.append_nil, List.map_cons,
        List.map_map]
      · rfl
      · rintro sign more ⟨⟩

theorem readPhrase_operator {operator : String}
    (known : dialect.vendor.knowsOperator operator = true) {rest : List Tree} (ends : Ends rest) :
    readPhrase (operatorTrees operator ++ rest) = (operator, rest) := by
  rcases known_wording known with words | ⟨nonempty, signs⟩
  · rw [operatorTrees_of_words words, readPhrase_words words (List.splitOn_ne_nil _ _) ends,
      words_eq_intercalate]
  · rw [operatorTrees_of_signs (by simpa using nonempty) signs, List.singleton_append, signTree,
      readPhrase, String.ofList_toList]

theorem readPhrase_keyword (keyword : Keyword) {rest : List Tree} (ends : Ends rest) :
    readPhrase (keyword.words.map wordTree ++ rest) = (" ".intercalate keyword.words, rest) := by
  have words : ∀ part ∈ keyword.words.map String.toList,
      part ≠ [] ∧ part.all Char.isAlpha = true := by
    rcases keyword with negated | negated | negated <;> cases negated <;> decide
  have nonempty : keyword.words.map String.toList ≠ [] := by
    rcases keyword with negated | negated | negated <;> cases negated <;> decide
  have phrase := readPhrase_words words nonempty ends
  have same : String.ofList ∘ String.toList = id := funext fun _ => String.ofList_toList
  rwa [List.map_map, List.map_map, same, List.map_id] at phrase

theorem operatorTrees_eq_cons {operator : String}
    (known : dialect.vendor.knowsOperator operator = true) :
    ∃ relator rest, operatorTrees operator = relator :: rest ∧ relator.isRelator = true := by
  rcases known_wording known with words | ⟨nonempty, signs⟩
  · rw [operatorTrees_of_words words]
    cases parts : operator.toList.splitOn ' ' with
    | nil => exact absurd parts (List.splitOn_ne_nil _ _)
    | cons first rest => exact ⟨_, _, rfl, rfl⟩
  · exact ⟨_, _, operatorTrees_of_signs (by simpa using nonempty) signs, rfl⟩

theorem keyword_words (keyword : Keyword) :
    keyword? (" ".intercalate keyword.words) = some keyword := by
  rcases keyword with negated | negated | negated <;> cases negated <;> decide

theorem listed_keywords (vendor : Vendor) :
    ∀ operator ∈ vendor.operators, operator ≠ "between" →
      ∀ keyword ∈ [Keyword.null false, .null true, .member false, .member true, .range false,
        .range true], Text.asciiLower (" ".intercalate keyword.words) ≠ operator := by
  cases vendor <;> decide

theorem keyword_operator {operator : String}
    (compares : Vocabulary.legible.Compares dialect operator) : keyword? operator = none := by
  have listed : Text.asciiLower operator ∈ dialect.vendor.operators := by
    simpa [Vendor.knowsOperator] using compares.1
  refine List.find?_eq_none.mpr fun keyword member => ?_
  simpa [Text.asciiEq] using listed_keywords dialect.vendor _ listed compares.2 keyword member

/-! Relations -/

theorem segmentTree_cases (name : String) :
    (∃ content, dialect.segmentTree name = .leaf (.quoted dialect.vendor.quote content)) ∨
      dialect.segmentTree name = signTree "*" := by
  unfold segmentTree
  split
  · exact .inr rfl
  · exact .inl ⟨_, rfl⟩

theorem isTerm_segmentTree (name : String) : (dialect.segmentTree name).isTerm = false := by
  rcases @segmentTree_cases dialect name with ⟨content, same⟩ | same <;> rw [same] <;> rfl

/-- What begins with a name is neither a constant nor an existence. -/
theorem readSimple_of_segment (name : String) (rest : List Tree) :
    dialect.readSimple (dialect.segmentTree name :: rest) =
      dialect.readStatement (dialect.segmentTree name :: rest) := by
  have constant : readConstant (dialect.segmentTree name :: rest) = none := by
    rcases @segmentTree_cases dialect name with ⟨content, same⟩ | same <;> rw [same] <;> rfl
  have existence : readExistence (dialect.segmentTree name :: rest) = none := by
    rcases @segmentTree_cases dialect name with ⟨content, same⟩ | same
    all_goals
      rw [same]
      unfold readExistence
      split
      · rename_i found
        cases found
        rfl
      · rename_i found
        cases found
        rfl
      · rfl
  rw [readSimple, constant, existence, Option.none_or, Option.none_or]

theorem readSimple_column (name : String) {relator : Tree} (relates : relator.isRelator = true)
    (rest : List Tree) :
    dialect.readSimple (dialect.pathTrees name ++ relator :: rest) =
      dialect.readRelation (.column name) (readPhrase (relator :: rest)).1
        (readPhrase (relator :: rest)).2 := by
  have subject := @readSubject_column dialect name relator relates rest
  obtain ⟨first, path, same, -⟩ := @pathTrees_eq_cons dialect name
  rw [same, List.cons_append] at subject ⊢
  rw [readSimple_of_segment, readStatement, subject]
  rfl

theorem readSimple_datePart (part : DatePart) (name : String) {next : Tree} (rest : List Tree) :
    dialect.readSimple
        (dialect.datePartTrees part (dialect.pathTrees name) ++ next :: rest) =
      dialect.readRelation (.datePart part name) (readPhrase (next :: rest)).1
        (readPhrase (next :: rest)).2 := by
  have subject := @readSubject_datePart dialect part name (next :: rest)
  have call : ∀ (word : Tree) (inner : List Tree),
      dialect.datePartTrees part (dialect.pathTrees name) = [word, .parens inner] →
      dialect.readSimple
          (dialect.datePartTrees part (dialect.pathTrees name) ++ next :: rest) =
        dialect.readRelation (.datePart part name) (readPhrase (next :: rest)).1
          (readPhrase (next :: rest)).2 := by
    intro word inner same
    rw [same] at subject ⊢
    have constant : readConstant ([word, .parens inner] ++ next :: rest) = none := by
      unfold readConstant
      split
      · rename_i found
        cases found
      · rfl
    have existence : readExistence ([word, .parens inner] ++ next :: rest) = none := by
      unfold readExistence
      split
      · rename_i found
        cases found
      · rename_i found
        cases found
        rw [if_neg (by rintro ⟨-, word, -⟩; cases word)]
      · rfl
    rw [readSimple, constant, existence, Option.none_or, Option.none_or, readStatement, subject]
    rfl
  cases vendor : dialect.vendor with
  | sqlite => exact call _ _ (by simp only [datePartTrees, vendor]; rfl)
  | mysql => exact call _ _ (by simp only [datePartTrees, vendor]; rfl)
  | postgres =>
      cases part with
      | date =>
          have same : dialect.datePartTrees .date (dialect.pathTrees name) =
              dialect.pathTrees name ++ [markTree ':', markTree ':', wordTree "date"] := by
            simp only [datePartTrees, vendor]
          rw [same] at subject ⊢
          obtain ⟨first, path, head, -⟩ := @pathTrees_eq_cons dialect name
          rw [head, List.cons_append, List.cons_append] at subject ⊢
          rw [readSimple_of_segment, readStatement, subject]
          rfl
      | day | month | year => exact call _ _ (by simp only [datePartTrees, vendor]; rfl)

/-! What stands on the right -/

theorem operandTrees_of_isBound {operand : Operand} (bound : operand.IsBound) :
    dialect.operandTrees operand = [wordTree dialect.marker.text] := by
  cases operand with
  | bound value => rfl
  | verbatim sql => exact bound.elim

theorem isTerm_marker : (wordTree dialect.marker.text).isTerm = false := by
  cases dialect.marker <;> decide

theorem isParameter_marker : dialect.isParameter (wordTree dialect.marker.text) = true := by
  simp [isParameter, wordTree]

theorem isSelect_append {trees : List Tree} (select : isSelect trees = true) (rest : List Tree) :
    isSelect (trees ++ rest) = true := by
  cases trees with
  | nil => cases select
  | cons first trees =>
      cases first with
      | leaf atom => exact select
      | parens inner => rfl

theorem isSelect_selectTrees (query : Query) : isSelect (dialect.selectTrees query) = true := by
  obtain ⟨columns, distinct, table, joins, wheres, groups, havings, window, unions, unionWindow,
    lock, aggregate⟩ := query
  have main : isSelect (dialect.mainTrees distinct columns table joins (dialect.clauseTrees wheres)
      groups (dialect.clauseTrees havings) window) = true := by
    simp only [mainTrees, selectListTrees, List.append_assoc, List.cons_append]
    change (wordTree "SELECT").isWord "select" = true
    decide
  have side : isSelect (dialect.unionSideTrees (dialect.mainTrees distinct columns table joins
      (dialect.clauseTrees wheres) groups (dialect.clauseTrees havings) window)) = true := by
    unfold unionSideTrees
    split
    · rfl
    · exact main
  have united : isSelect (dialect.unitedTrees (dialect.mainTrees distinct columns table joins
      (dialect.clauseTrees wheres) groups (dialect.clauseTrees havings) window)
      (dialect.branchTrees unions) unionWindow) = true := by
    unfold unitedTrees
    split
    · exact main
    · exact isSelect_append (isSelect_append side _) _
  rw [selectTrees]
  cases lock with
  | none => exact united
  | some kind => exact isSelect_append united _

theorem parametersTrees_cons (first : Operand) (rest : List Operand) :
    dialect.parametersTrees (first :: rest) = dialect.operandTrees first ++
      if rest = [] then [] else markTree ',' :: dialect.parametersTrees rest := by
  cases rest with
  | nil => simp [parametersTrees, listTrees]
  | cons next rest =>
      rw [parametersTrees, listTrees, List.map_cons, List.map_cons, List.intercalate_cons_cons,
        if_neg (by simp)]
      simp [parametersTrees, listTrees]

theorem countParameters_parametersTrees {operands : List Operand}
    (bound : ∀ operand ∈ operands, operand.IsBound) (nonempty : operands ≠ []) :
    dialect.countParameters (dialect.parametersTrees operands) = some operands.length := by
  induction operands with
  | nil => exact absurd rfl nonempty
  | cons first rest ih =>
      rw [parametersTrees_cons, operandTrees_of_isBound (bound first List.mem_cons_self)]
      cases rest with
      | nil => simp [countParameters, isParameter_marker]
      | cons next rest =>
          have behind := ih
            (fun operand member => bound operand (List.mem_cons_of_mem first member)) (by simp)
          rw [if_neg (by simp), markTree, List.singleton_append, countParameters,
            if_pos isParameter_marker, behind]
          rfl

theorem isSelect_parametersTrees {operands : List Operand}
    (bound : ∀ operand ∈ operands, operand.IsBound) (nonempty : operands ≠ []) :
    isSelect (dialect.parametersTrees operands) = false := by
  cases operands with
  | nil => exact absurd rfl nonempty
  | cons first rest =>
      rw [parametersTrees_cons, operandTrees_of_isBound (bound first List.mem_cons_self)]
      cases marker : dialect.marker <;> rfl

/-! The kinds of predicates -/

section Kinds

variable {column : Identifier} {operator : String}

/-- A column and an operator in front of what the column is compared with. -/
theorem readSimple_comparison (legible : column.Within .legible)
    (compares : Vocabulary.legible.Compares dialect operator) {rest : List Tree}
    (ends : Ends rest) :
    dialect.readSimple (dialect.columnRefTrees column ++ operatorTrees operator ++ rest) =
      dialect.readComparison column.text operator rest := by
  have phrase := readPhrase_operator compares.1 ends
  obtain ⟨relator, more, same, relates⟩ := operatorTrees_eq_cons compares.1
  rw [columnRefTrees_of_legible legible, List.append_assoc]
  rw [same, List.cons_append] at phrase ⊢
  rw [readSimple_column column.text relates, phrase]
  simp only [readRelation, keyword_operator compares]
  rw [if_pos compares.1]

/-- A column and a keyword. -/
theorem readSimple_keyword (legible : column.Within .legible) (keyword : Keyword)
    {rest : List Tree} (ends : Ends rest) :
    dialect.readSimple (dialect.columnRefTrees column ++ (keyword.words.map wordTree ++ rest)) =
      dialect.readKeyword column.text keyword rest := by
  have phrase := readPhrase_keyword keyword ends
  have shape : ∃ word more, keyword.words.map wordTree = wordTree word :: more := by
    rcases keyword with negated | negated | negated <;> cases negated <;> exact ⟨_, _, rfl⟩
  obtain ⟨word, more, same⟩ := shape
  rw [columnRefTrees_of_legible legible]
  rw [same, List.cons_append] at phrase ⊢
  rw [readSimple_column column.text rfl, phrase]
  simp only [readRelation, keyword_words]

theorem readComparison_pathTrees (name other : String) :
    dialect.readComparison name operator (dialect.pathTrees other) =
      some (.compareColumns name operator other) := by
  have column := @readColumn_pathTrees dialect other [] nofun
  obtain ⟨first, path, same, -⟩ := @pathTrees_eq_cons dialect other
  rw [List.append_nil] at column
  rw [same] at column ⊢
  unfold readComparison
  split
  · rename_i found
    injection found with found
    rcases @segmentTree_cases dialect first with ⟨content, shape⟩ | shape <;> rw [shape] at found
    all_goals cases found
  · rename_i found
    injection found with found
    rcases @segmentTree_cases dialect first with ⟨content, shape⟩ | shape <;> rw [shape] at found
    all_goals cases found
  · rw [column]

theorem readSimple_membership (negated : Bool) (legible : column.Within .legible)
    (inner : List Tree) :
    dialect.readSimple (dialect.columnRefTrees column ++ negationTrees negated ++
        [wordTree "IN", .parens inner]) =
      dialect.readMembers negated column.text inner := by
  have ends : Ends [.parens inner] := by
    rintro _ ⟨⟩
    rfl
  have whole := @readSimple_keyword dialect column legible (.member negated) _ ends
  rw [List.append_assoc]
  cases negated <;> exact whole

theorem readSimple_nullTest (negated : Bool) (legible : column.Within .legible) :
    dialect.readSimple (dialect.columnRefTrees column ++ wordTree "IS" :: negationTrees negated ++
        [wordTree "NULL"]) = some (.isNull negated column.text) := by
  have whole := @readSimple_keyword dialect column legible (.null negated) [] nofun
  rw [List.append_assoc]
  cases negated <;> exact whole

theorem readSimple_range {low high : Operand} (negated : Bool) (legible : column.Within .legible)
    (bounds : low.IsBound ∧ high.IsBound) :
    dialect.readSimple (dialect.columnRefTrees column ++ negationTrees negated ++
        wordTree "BETWEEN" :: dialect.operandTrees low ++
        wordTree "AND" :: dialect.operandTrees high) = some (.between negated column.text) := by
  have ends : Ends [wordTree dialect.marker.text, wordTree "AND",
      wordTree dialect.marker.text] := by
    rintro _ ⟨⟩
    exact isTerm_marker
  have whole := @readSimple_keyword dialect column legible (.range negated) _ ends
  rw [readKeyword, if_pos ⟨isParameter_marker, by decide, isParameter_marker⟩] at whole
  rw [operandTrees_of_isBound bounds.1, operandTrees_of_isBound bounds.2, List.append_assoc,
    List.append_assoc]
  cases negated <;> exact whole

theorem readSimple_existence (negated : Bool) {inner : List Tree}
    (select : isSelect inner = true) :
    dialect.readSimple (negationTrees negated ++ [wordTree "EXISTS", .parens inner]) =
      some (.exists negated) := by
  have constant : readConstant (negationTrees negated ++ [wordTree "EXISTS", .parens inner]) =
      none := by
    cases negated <;> rfl
  have existence : readExistence (negationTrees negated ++ [wordTree "EXISTS", .parens inner]) =
      some (.exists negated) := by
    cases negated with
    | false => exact if_pos ⟨by decide, select⟩
    | true => exact if_pos ⟨by decide, by decide, select⟩
  rw [readSimple, constant, existence]
  rfl

theorem readSimple_dateComparison {operand : Operand} (part : DatePart)
    (legible : column.Within .legible) (compares : Vocabulary.legible.Compares dialect operator)
    (bound : operand.IsBound) :
    dialect.readSimple (dialect.datePartTrees part (dialect.columnRefTrees column) ++
        operatorTrees operator ++ dialect.operandTrees operand) =
      some (.compareDate part column.text operator) := by
  have ends : Ends [wordTree dialect.marker.text] := by
    rintro _ ⟨⟩
    exact isTerm_marker
  have phrase := readPhrase_operator compares.1 ends
  obtain ⟨relator, more, same, -⟩ := operatorTrees_eq_cons compares.1
  rw [columnRefTrees_of_legible legible, operandTrees_of_isBound bound, List.append_assoc]
  rw [same, List.cons_append] at phrase ⊢
  rw [readSimple_datePart, phrase]
  simp only [readRelation, keyword_operator compares]
  rw [if_pos ⟨compares.1, isParameter_marker⟩]

end Kinds

end Dialect

end SqlToolkit
