import Mathlib
import SqlToolkit.Proofs.Reading.Trees
import SqlToolkit.Query.Select
/-!
The trees of names, operators, values and parts of dates. Whatever characters a name is made of, it
reads as quoted texts with dots between them, and nothing else.
-/

namespace SqlToolkit

/-- A word of SQL, or a marker. -/
def wordTree (word : String) : Tree :=
  .leaf (.word word.toList)

def signTree (sign : String) : Tree :=
  .leaf (.sign sign.toList)

def markTree (c : Char) : Tree :=
  .leaf (.mark c)

/-! Words that do not stand in a text, in whatever letters -/

def Tree.isWord (word : String) : Tree → Bool
  | .leaf (.word letters) => letters.map Char.toLower = word.toList
  | _ => false

/-- None of these words stands in trees, but for what is in parentheses. -/
def Avoid (words : List String) (trees : List Tree) : Prop :=
  ∀ tree ∈ trees, ∀ word ∈ words, tree.isWord word = false

namespace Avoid

variable {words : List String} {left right : List Tree} {tree : Tree}

theorem nil : Avoid words [] :=
  nofun

theorem append (first : Avoid words left) (second : Avoid words right) :
    Avoid words (left ++ right) :=
  List.forall_mem_append.mpr ⟨first, second⟩

theorem cons (first : ∀ word ∈ words, tree.isWord word = false) (rest : Avoid words right) :
    Avoid words (tree :: right) :=
  List.forall_mem_cons.mpr ⟨first, rest⟩

theorem parens {inner : List Tree} (rest : Avoid words right) :
    Avoid words (.parens inner :: right) :=
  cons (fun _ _ => rfl) rest

theorem mark {c : Char} (rest : Avoid words right) : Avoid words (markTree c :: right) :=
  cons (fun _ _ => rfl) rest

theorem word {word : String} (other : Text.asciiLower word ∉ words)
    (rest : Avoid words right) : Avoid words (wordTree word :: right) := by
  refine cons (fun given listed => ?_) rest
  refine decide_eq_false fun same => other ?_
  rwa [Text.asciiLower, same, String.ofList_toList]

theorem mono {fewer : List String} (avoid : Avoid words left) (part : fewer ⊆ words) :
    Avoid fewer left :=
  fun tree member word listed => avoid tree member word (part listed)

theorem intercalate {separator : List Tree} {each : List (List Tree)}
    (between : Avoid words separator) (all : ∀ trees ∈ each, Avoid words trees) :
    Avoid words (separator.intercalate each) := by
  induction each with
  | nil => exact nil
  | cons first rest ih =>
      cases rest with
      | nil => simpa using all
      | cons next others =>
          rw [List.intercalate_cons_cons]
          exact ((all first List.mem_cons_self).append between).append
            (ih fun trees member => all trees (List.mem_cons_of_mem first member))

end Avoid

namespace Vendor

variable {vendor : Vendor}

theorem flatAll_intercalate (separator : List Tree) (each : List (List Tree)) :
    flatAll (separator.intercalate each) =
      (flatAll separator).intercalate (each.map flatAll) := by
  induction each with
  | nil => rfl
  | cons first rest ih =>
      cases rest with
      | nil => simp
      | cons next others =>
          simp only [List.intercalate_cons_cons, List.map_cons, flatAll_append] at ih ⊢
          rw [ih]

namespace Reads

variable {left middle right : String} {first between second : List Tree}

theorem append (reads : vendor.Reads left first) (next : vendor.Reads right second)
    (parted : Parted left right) : vendor.Reads (left ++ right) (first ++ second) := by
  unfold Reads
  rw [flatAll_append]
  exact Lexes.append reads next parted

theorem join (reads : vendor.Reads left first) (seam : vendor.Seam middle (flatAll between))
    (next : vendor.Reads right second) :
    vendor.Reads (left ++ middle ++ right) (first ++ between ++ second) := by
  unfold Reads
  rw [flatAll_append, flatAll_append]
  exact Lexes.join reads seam next

/-- A text that ends in an opening bracket, what stands in the bracket, and its counterpart. -/
theorem bracket (front : vendor.Lexes left (flatAll first ++ [.opening]))
    (ends : endsBroken left = true) (inner : vendor.Reads right second) :
    vendor.Reads (left ++ right ++ ")") (first ++ [.parens second]) := by
  have closing : vendor.Lexes ")" [.closing] := by
    cases vendor <;> decide
  have whole := (Lexes.prepend front ends inner).close closing (by decide)
  unfold Reads
  rw [flatAll_append]
  simpa [flatAll, Tree.flat] using whole

/-- A text in brackets. -/
theorem parens (inner : vendor.Reads right second) :
    vendor.Reads ("(" ++ right ++ ")") [.parens second] :=
  @bracket vendor "(" right [] second (by cases vendor <;> decide) (by decide) inner

end Reads

namespace Reads

variable {separator : String} {between : List Tree} {texts : List String} {each : List (List Tree)}

theorem intercalate (seam : vendor.Seam separator (flatAll between))
    (reads : List.Forall₂ vendor.Reads texts each) :
    vendor.Reads (separator.intercalate texts) (between.intercalate each) := by
  unfold Reads
  rw [flatAll_intercalate]
  exact Lexes.intercalate seam (List.forall₂_map_right_iff.mpr reads)

/-- Texts with blanks between them. -/
theorem spaced (reads : List.Forall₂ vendor.Reads texts each) :
    vendor.Reads (" ".intercalate texts) each.flatten := by
  have blank : vendor.Seam " " (flatAll []) := Lexes.blank
  have whole := intercalate blank reads
  rwa [intercalate_nil] at whole

end Reads

theorem flatten_flatAll (each : List (List Tree)) :
    (each.map flatAll).flatten = flatAll each.flatten := by
  induction each with
  | nil => rfl
  | cons first rest ih => simp [ih]

theorem Reads.joinParts {texts : List String} {each : List (List Tree)}
    (reads : List.Forall₂ vendor.Reads texts each) :
    vendor.Reads (SqlToolkit.joinParts texts) each.flatten := by
  unfold Reads
  rw [← flatten_flatAll]
  exact Lexes.joinParts (List.forall₂_map_right_iff.mpr reads)

end Vendor

namespace Dialect

variable {dialect : Dialect}

/-! Names -/

def segmentTree (dialect : Dialect) (name : String) : Tree :=
  if name = "*" then signTree "*" else .leaf (.quoted dialect.vendor.quote name.toList)

/-- Segments with dots between them. -/
def pathTreesOf (dialect : Dialect) (segments : List String) : List Tree :=
  [markTree '.'].intercalate (segments.map fun segment => [dialect.segmentTree segment])

/-- The segments of a column name as they are written; in a dotted one the first names a table. -/
def prefixed (dialect : Dialect) : List String → List String
  | table :: next :: rest => (dialect.tablePrefix ++ table) :: next :: rest
  | single => single

def pathTrees (dialect : Dialect) (name : String) : List Tree :=
  dialect.pathTreesOf (dialect.prefixed (segments name))

def columnTrees (dialect : Dialect) (name : String) : List Tree :=
  match splitAlias name with
  | some (base, shown) => dialect.pathTrees base ++ [wordTree "AS", dialect.segmentTree shown]
  | none => dialect.pathTrees name

def tablePathTrees (dialect : Dialect) (name : String) : List Tree :=
  match splitSchema name with
  | (some schema, table) => dialect.pathTreesOf [schema, dialect.tablePrefix ++ table]
  | (none, table) => dialect.pathTreesOf [dialect.tablePrefix ++ table]

def tableTrees (dialect : Dialect) (name : String) : List Tree :=
  match splitAlias name with
  | some (base, shown) =>
      dialect.tablePathTrees base ++
        [wordTree "AS", dialect.segmentTree (dialect.tablePrefix ++ shown)]
  | none => dialect.tablePathTrees name

theorem isWord_segmentTree (name word : String) :
    (dialect.segmentTree name).isWord word = false := by
  unfold segmentTree
  split <;> rfl

theorem avoid_pathTreesOf {words : List String} (segments : List String) :
    Avoid words (dialect.pathTreesOf segments) := by
  refine .intercalate (.mark .nil) fun trees member => ?_
  obtain ⟨segment, -, rfl⟩ := List.mem_map.mp member
  exact .cons (fun word _ => isWord_segmentTree segment word) .nil

theorem avoid_segmentTree {words : List String} (name : String) :
    Avoid words [dialect.segmentTree name] :=
  .cons (fun word _ => isWord_segmentTree name word) .nil

/-- No name holds a word but the one in front of an alias. -/
theorem avoid_columnTrees {words : List String} (name : String) (other : "as" ∉ words) :
    Avoid words (dialect.columnTrees name) := by
  unfold columnTrees
  split
  · exact (avoid_pathTreesOf _).append (.word other (avoid_segmentTree _))
  · exact avoid_pathTreesOf _

theorem avoid_tableTrees {words : List String} (name : String) (other : "as" ∉ words) :
    Avoid words (dialect.tableTrees name) := by
  have path : ∀ name, Avoid words (dialect.tablePathTrees name) := by
    intro name
    unfold tablePathTrees
    split <;> exact avoid_pathTreesOf _
  unfold tableTrees
  split
  · exact (path _).append (.word other (avoid_segmentTree _))
  · exact path _

theorem segmentsChars_eq_splitOn (name : List Char) : segmentsChars name = name.splitOn '.' := by
  induction name with
  | nil => rfl
  | cons c rest ih =>
      rw [segmentsChars, List.splitOn_cons_eq_if_modifyHead, ih]
      by_cases dot : c = '.'
      · simp [dot]
      · simp only [beq_iff_eq, dot, if_false]
        cases parts : rest.splitOn '.' with
        | nil => exact absurd parts (List.splitOn_ne_nil '.' rest)
        | cons segment more => rfl

theorem segmentsChars_ne_nil (name : List Char) : segmentsChars name ≠ [] := by
  rw [segmentsChars_eq_splitOn]
  exact List.splitOn_ne_nil '.' name

theorem reads_quoted (name : String) :
    dialect.vendor.Reads (dialect.quoted name) [dialect.segmentTree name] := by
  unfold quoted segmentTree
  split
  · cases dialect.vendor <;> decide
  · exact Vendor.lexes_enclosed Vendor.isQuote_quote name

theorem seam_dot : dialect.vendor.Seam "." (flatAll [markTree '.']) := by
  cases dialect.vendor <;> decide

theorem seam_alias : dialect.vendor.Seam " AS " (flatAll [wordTree "AS"]) := by
  cases dialect.vendor <;> decide

theorem seam_comma : dialect.vendor.Seam ", " (flatAll [markTree ',']) := by
  cases dialect.vendor <;> decide

theorem reads_path (segments : List String) :
    dialect.vendor.Reads (".".intercalate (segments.map dialect.quoted))
      (dialect.pathTreesOf segments) := by
  refine Vendor.Reads.intercalate seam_dot ?_
  rw [List.forall₂_map_left_iff, List.forall₂_map_right_iff, List.forall₂_same]
  exact fun segment _ => reads_quoted segment

theorem reads_columnPath (name : String) :
    dialect.vendor.Reads (dialect.columnPath name) (dialect.pathTrees name) := by
  have whole := @reads_path dialect (dialect.prefixed (segments name))
  unfold columnPath pathTrees
  cases parts : segments name with
  | nil => exact absurd (List.map_eq_nil_iff.mp parts) (segmentsChars_ne_nil _)
  | cons table rest =>
      rw [parts] at whole
      cases rest with
      | nil => simpa [prefixed] using whole
      | cons next rest => exact whole

theorem reads_column (name : String) :
    dialect.vendor.Reads (dialect.column name) (dialect.columnTrees name) := by
  unfold column columnTrees
  cases splitAlias name with
  | none => exact reads_columnPath name
  | some parts =>
      obtain ⟨base, shown⟩ := parts
      have joined := (reads_columnPath base).join seam_alias (@reads_quoted dialect shown)
      rwa [List.append_assoc] at joined

theorem reads_tablePath (name : String) :
    dialect.vendor.Reads (dialect.tablePath name) (dialect.tablePathTrees name) := by
  unfold tablePath tablePathTrees
  rcases splitSchema name with ⟨schema, table⟩
  cases schema with
  | none => simpa using @reads_path dialect [dialect.tablePrefix ++ table]
  | some schema =>
      have joined := @reads_path dialect [schema, dialect.tablePrefix ++ table]
      simpa [String.intercalate_cons_cons] using joined

theorem reads_table (name : String) :
    dialect.vendor.Reads (dialect.table name) (dialect.tableTrees name) := by
  unfold table tableTrees
  cases splitAlias name with
  | none => exact reads_tablePath name
  | some parts =>
      obtain ⟨base, shown⟩ := parts
      have joined := (reads_tablePath base).join seam_alias
        (@reads_quoted dialect (dialect.tablePrefix ++ shown))
      rwa [List.append_assoc] at joined

/-! Identifiers and values. A fragment is read for what it is. -/

def fragmentTrees (dialect : Dialect) (sql : String) : List Tree :=
  (dialect.vendor.parse sql).getD []

def columnRefTrees (dialect : Dialect) : Identifier → List Tree
  | .named name => dialect.columnTrees name
  | .verbatim sql => dialect.fragmentTrees sql

def tableRefTrees (dialect : Dialect) : Identifier → List Tree
  | .named name => dialect.tableTrees name
  | .verbatim sql => dialect.fragmentTrees sql

def operandTrees (dialect : Dialect) : Operand → List Tree
  | .bound _ => [wordTree dialect.marker.text]
  | .verbatim sql => dialect.fragmentTrees sql

/-- A text whose quotes and brackets are closed. -/
def Sealed (dialect : Dialect) (sql : String) : Prop :=
  ∃ trees, dialect.vendor.Reads sql trees

theorem Sealed.reads {sql : String} (closed : dialect.Sealed sql) :
    dialect.vendor.Reads sql (dialect.fragmentTrees sql) := by
  obtain ⟨trees, reads⟩ := closed
  rw [fragmentTrees, reads.parse]
  exact reads

theorem reads_marker :
    dialect.vendor.Reads dialect.marker.text [wordTree dialect.marker.text] := by
  cases dialect.vendor <;> cases dialect.marker <;> decide

/-! Operators -/

/-- The words of an operator, or its one sign. -/
def operatorTrees (operator : String) : List Tree :=
  let parts := operator.toList.splitOn ' '
  if parts.all (List.all · Char.isAlpha) then parts.map fun part => .leaf (.word part)
  else [signTree operator]

/-- Words with blanks between them, or one sign. -/
def IsWording (vendor : Vendor) (text : List Char) : Prop :=
  (∀ part ∈ text.splitOn ' ', part ≠ [] ∧ part.all Char.isAlpha = true) ∨
    text ≠ [] ∧ text.all vendor.isSign = true

instance (vendor : Vendor) (text : List Char) : Decidable (IsWording vendor text) :=
  inferInstanceAs (Decidable (_ ∨ _))

theorem listed_wording (vendor : Vendor) :
    ∀ operator ∈ vendor.operators, IsWording vendor operator.toList := by
  cases vendor <;> decide

theorem isLower_toLower {c : Char} (upper : c.isUpper = true) : c.toLower.isLower = true := by
  have bounds : 65 ≤ c.val.toNat ∧ c.val.toNat ≤ 90 := of_decide_eq_true upper
  have small : c.toLower.val = c.val + 32 := by
    unfold Char.toLower
    rw [dif_pos (of_decide_eq_true upper)]
    rfl
  have sum : (c.val + 32).toNat = c.val.toNat + 32 := by
    refine (UInt32.toNat_add c.val 32).trans (Nat.mod_eq_of_lt ?_)
    change c.val.toNat + 32 < _
    omega
  have shifted : 97 ≤ (c.val + 32).toNat ∧ (c.val + 32).toNat ≤ 122 := by omega
  rw [← small] at shifted
  simpa [Char.isLower, UInt32.le_iff_toNat_le] using shifted

/-- Small letters stand for letters, and all other characters for themselves. -/
theorem toLower_cases (c : Char) : c.toLower = c ∨ c.isAlpha = true ∧ c.toLower.isAlpha = true := by
  cases upper : c.isUpper with
  | true => exact .inr (by simp [Char.isAlpha, upper, isLower_toLower upper])
  | false =>
      refine .inl ?_
      unfold Char.toLower
      exact dif_neg (of_decide_eq_false upper)

theorem isAlpha_of_toLower {c : Char} (small : c.toLower.isAlpha = true) : c.isAlpha = true := by
  rcases toLower_cases c with same | ⟨alpha, -⟩
  · rwa [same] at small
  · exact alpha

theorem isLetter_of_isAlpha {c : Char} (alpha : c.isAlpha = true) : isLetter c = true := by
  simp [isLetter, Char.isAlphanum, alpha]

theorem isSign_of_toLower {vendor : Vendor} {c : Char} (sign : vendor.isSign c.toLower = true) :
    vendor.isSign c = true := by
  rcases toLower_cases c with same | ⟨-, small⟩
  · rwa [same] at sign
  · simp [Vendor.isSign, isLetter_of_isAlpha small] at sign

theorem toLower_eq_blank_iff {c : Char} : c.toLower = ' ' ↔ c = ' ' := by
  rcases toLower_cases c with same | ⟨alpha, small⟩
  · rw [same]
  · constructor
    · intro blank
      rw [blank] at small
      exact absurd small (by decide)
    · rintro rfl
      exact absurd alpha (by decide)

theorem splitOn_map_toLower (text : List Char) :
    (text.map Char.toLower).splitOn ' ' = (text.splitOn ' ').map (List.map Char.toLower) := by
  rw [List.splitOn_eq_splitOnP, List.splitOn_eq_splitOnP]
  induction text with
  | nil => rfl
  | cons c rest ih =>
      rw [List.map_cons, List.splitOnP_cons_eq_if_modifyHead,
        List.splitOnP_cons_eq_if_modifyHead, ih]
      by_cases blank : c = ' '
      · simp [blank]
      · have others : c.toLower ≠ ' ' := mt toLower_eq_blank_iff.mp blank
        simp only [beq_iff_eq, blank, others, if_false]
        cases List.splitOnP (fun other => other == ' ') rest <;> rfl

/-- The operators that a vendor knows are known in whatever letters they are written. -/
theorem known_wording {vendor : Vendor} {operator : String}
    (known : vendor.knowsOperator operator = true) : IsWording vendor operator.toList := by
  have listed : Text.asciiLower operator ∈ vendor.operators := by
    simpa [Vendor.knowsOperator] using known
  have small := listed_wording vendor _ listed
  rw [Text.asciiLower, String.toList_ofList] at small
  refine small.imp (fun words part member => ?_) fun ⟨nonempty, signs⟩ => ?_
  · rw [splitOn_map_toLower] at words
    obtain ⟨nonempty, letters⟩ := words _ (List.mem_map_of_mem member)
    simp only [List.all_map, List.all_eq_true] at letters ⊢
    exact ⟨by simpa using nonempty, fun c member => isAlpha_of_toLower (letters c member)⟩
  · simp only [List.all_map, List.all_eq_true] at signs ⊢
    exact ⟨by simpa using nonempty, fun c member => isSign_of_toLower (signs c member)⟩

theorem isPlain_word {letters : List Char} (question : '?' ∉ letters) (dollar : '$' ∉ letters) :
    (Lexeme.atom (.word letters)).isPlain = true := by
  simp [Lexeme.isPlain, question, dollar]

theorem reads_word {vendor : Vendor} {letters : List Char} (nonempty : letters ≠ [])
    (alpha : letters.all Char.isAlpha = true) :
    vendor.Reads (String.ofList letters) [.leaf (.word letters)] := by
  simp only [List.all_eq_true] at alpha
  have all : letters.all isLetter = true := by
    simp only [List.all_eq_true]
    exact fun c member => isLetter_of_isAlpha (alpha c member)
  have plain : (Lexeme.atom (.word letters)).isPlain = true :=
    isPlain_word (fun member => absurd (alpha '?' member) (by decide))
      fun member => absurd (alpha '$' member) (by decide)
  have word := @Vendor.lexes_word vendor (String.ofList letters) (by simpa using nonempty)
    (by simpa using all) (by simpa using plain)
  rwa [String.toList_ofList] at word

theorem toList_comp_ofList : String.toList ∘ String.ofList = id :=
  funext fun _ => String.toList_ofList

theorem words_eq_intercalate (text : String) :
    " ".intercalate ((text.toList.splitOn ' ').map String.ofList) = text := by
  rw [← String.toList_inj, String.toList_intercalate, List.map_map, toList_comp_ofList, List.map_id]
  exact List.intercalate_splitOn ' '

theorem reads_words {vendor : Vendor} {text : String}
    (words : ∀ part ∈ text.toList.splitOn ' ', part ≠ [] ∧ part.all Char.isAlpha = true) :
    vendor.Reads text ((text.toList.splitOn ' ').map fun part => .leaf (.word part)) := by
  have each : List.Forall₂ vendor.Reads ((text.toList.splitOn ' ').map String.ofList)
      ((text.toList.splitOn ' ').map fun part => [.leaf (.word part)]) := by
    rw [List.forall₂_map_left_iff, List.forall₂_map_right_iff, List.forall₂_same]
    exact fun part member => reads_word (words part member).1 (words part member).2
  have whole := Vendor.Reads.spaced each
  rwa [words_eq_intercalate, ← List.flatMap_def, ← List.map_eq_flatMap] at whole

theorem operatorTrees_of_words {operator : String}
    (words : ∀ part ∈ operator.toList.splitOn ' ', part ≠ [] ∧ part.all Char.isAlpha = true) :
    operatorTrees operator =
      (operator.toList.splitOn ' ').map fun part => .leaf (.word part) :=
  if_pos (List.all_eq_true.mpr fun part member => (words part member).2)

theorem operatorTrees_of_signs {vendor : Vendor} {operator : String} (nonempty : operator ≠ "")
    (signs : operator.toList.all vendor.isSign = true) :
    operatorTrees operator = [signTree operator] := by
  refine if_neg ?_
  have unbroken : ' ' ∉ operator.toList := by
    intro member
    have blank := List.all_eq_true.mp signs _ member
    cases vendor <;> exact absurd blank (by decide)
  rw [List.splitOn_eq_singleton unbroken]
  cases chars : operator.toList with
  | nil => exact absurd (String.toList_eq_nil_iff.mp chars) nonempty
  | cons c rest =>
      intro alpha
      simp only [List.all_cons, List.all_nil, Bool.and_true, Bool.and_eq_true] at alpha
      rw [chars, List.all_cons, Bool.and_eq_true, Vendor.isSign] at signs
      simp [isLetter_of_isAlpha alpha.1] at signs

theorem reads_operator {operator : String} (known : dialect.vendor.knowsOperator operator = true) :
    dialect.vendor.Reads operator (operatorTrees operator) := by
  rcases known_wording known with words | ⟨nonempty, signs⟩
  · rw [operatorTrees_of_words words]
    exact reads_words words
  · have nonempty : operator ≠ "" := by simpa using nonempty
    rw [operatorTrees_of_signs nonempty signs]
    exact Vendor.lexes_sign nonempty signs

/-- An operator holds no word that no part of it is. -/
theorem avoid_operatorTrees {words : List String} {operator : String}
    (others : ∀ part ∈ (Text.asciiLower operator).toList.splitOn ' ',
      String.ofList part ∉ words) : Avoid words (operatorTrees operator) := by
  rw [Text.asciiLower, String.toList_ofList, splitOn_map_toLower, List.forall_mem_map] at others
  unfold operatorTrees
  dsimp only
  split
  · intro tree member word listed
    obtain ⟨part, among, rfl⟩ := List.mem_map.mp member
    refine decide_eq_false fun same => others part among ?_
    rwa [same, String.ofList_toList]
  · exact .cons (fun _ _ => rfl) .nil

/-! Parts of dates -/

/-- The format of SQLite for a part of a date. -/
def datePartFormat : DatePart → String
  | .date => "%Y-%m-%d"
  | .day => "%d"
  | .month => "%m"
  | .year => "%Y"

def datePartName : DatePart → String
  | .date => "date"
  | .day => "day"
  | .month => "month"
  | .year => "year"

def datePartTrees (dialect : Dialect) (part : DatePart) (column : List Tree) : List Tree :=
  match dialect.vendor with
  | .sqlite =>
      [wordTree "strftime",
        .parens (.leaf (.quoted '\x27' (datePartFormat part).toList) :: markTree ',' :: column)]
  | .mysql => [wordTree (Text.asciiUpper (datePartName part)), .parens column]
  | .postgres =>
      match part with
      | .date => column ++ [markTree ':', markTree ':', wordTree "date"]
      | _ =>
          [wordTree "extract",
            .parens (wordTree (datePartName part) :: wordTree "from" :: column)]

/-- A function of a column, with what stands in its parentheses before the column. -/
theorem reads_function {vendor : Vendor} (front : String) (name : Tree) (given : List Tree)
    {column : String} {trees : List Tree}
    (opens : vendor.Lexes front (name.flat ++ .opening :: flatAll given))
    (ends : endsBroken front = true) (reads : vendor.Reads column trees) :
    vendor.Reads (front ++ column ++ ")") [name, .parens (given ++ trees)] := by
  have closing : vendor.Lexes ")" [.closing] := by
    cases vendor <;> decide
  have whole := (opens.prepend ends reads).close closing (by decide)
  unfold Vendor.Reads
  simpa [flatAll, Tree.flat] using whole

theorem reads_datePart {column : String} {trees : List Tree} (part : DatePart)
    (reads : dialect.vendor.Reads column trees) :
    dialect.vendor.Reads (dialect.datePart part column) (dialect.datePartTrees part trees) := by
  unfold datePart datePartTrees
  cases vendor : dialect.vendor with
  | sqlite =>
      rw [vendor] at reads
      cases part <;> exact reads_function ("strftime('" ++ _ ++ "', ") (wordTree "strftime")
        [.leaf (.quoted '\x27' (String.toList _)), markTree ','] (by decide) (by decide) reads
  | mysql =>
      rw [vendor] at reads
      cases part <;> exact reads_function (_ ++ "(") (wordTree _) [] (by decide) (by decide) reads
  | postgres =>
      rw [vendor] at reads
      cases part with
      | date => exact reads.append (by decide) (.inr (by decide))
      | day =>
          exact reads_function "extract(day from " (wordTree "extract")
            [wordTree "day", wordTree "from"] (by decide) (by decide) reads
      | month =>
          exact reads_function "extract(month from " (wordTree "extract")
            [wordTree "month", wordTree "from"] (by decide) (by decide) reads
      | year =>
          exact reads_function "extract(year from " (wordTree "extract")
            [wordTree "year", wordTree "from"] (by decide) (by decide) reads

end Dialect

end SqlToolkit
