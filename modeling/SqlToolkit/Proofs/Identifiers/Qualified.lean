import Mathlib.Data.List.Infix
import SqlToolkit.Proofs.Identifiers.Names
/-!
Columns that are qualified with a table, beside the text that introduces the table. A qualified
column is divided at each of its dots and has the prefix on its first part; a table is divided at
its last dot and has the prefix on its last part. The two name one table just where the table has no
schema, or one without dots and no prefix besides.
-/

namespace SqlToolkit

/-! Where a ` as ` stands in a text of several parts -/

variable {left right text : List Char}

theorem aliasPlace_cons_eq_none {c : Char} :
    aliasPlace (c :: text) = none ↔ startsAlias (c :: text) = false ∧ aliasPlace text = none := by
  rw [aliasPlace_cons]
  split_ifs with starts <;> simp [starts]

/-- A dot is no part of a ` as `. -/
theorem startsAlias_append_dot (left right : List Char) :
    startsAlias (left ++ '.' :: right) = startsAlias left := by
  rcases left with _ | ⟨blank, _ | ⟨a, _ | ⟨s, _ | ⟨close, tail⟩⟩⟩⟩ <;> simp [startsAlias]

theorem aliasPlace_append_dot_eq_none :
    aliasPlace (left ++ '.' :: right) = none ↔ aliasPlace left = none ∧ aliasPlace right = none := by
  induction left with
  | nil =>
      have starts : startsAlias ('.' :: right) = false := startsAlias_append_dot [] right
      have empty : aliasPlace [] = none := rfl
      rw [List.nil_append, aliasPlace_cons_eq_none, starts, empty]
      simp
  | cons c left ih =>
      have starts : startsAlias (c :: (left ++ '.' :: right)) = startsAlias (c :: left) :=
        startsAlias_append_dot (c :: left) right
      rw [List.cons_append, aliasPlace_cons_eq_none, aliasPlace_cons_eq_none, starts, ih, and_assoc]

/-- Only the blank of a ` as ` can end one that begins in front of it. -/
theorem startsAlias_append_as (c : Char) (left right : List Char) :
    startsAlias (c :: (left ++ (" as ".toList ++ right))) = startsAlias (c :: (left ++ [' '])) := by
  rcases left with _ | ⟨a, _ | ⟨s, _ | ⟨close, tail⟩⟩⟩ <;> simp [startsAlias]

theorem aliasPlace_append_as (left right : List Char) :
    aliasPlace (left ++ (" as ".toList ++ right)) =
      (aliasPlace (left ++ [' '])).or (some left.length) := by
  induction left with
  | nil =>
      have starts : startsAlias (" as ".toList ++ right) = true := by simp [startsAlias]
      have blank : aliasPlace [' '] = none := by decide
      rw [List.nil_append, List.nil_append, blank]
      exact (aliasPlace_cons ' ' _).trans (if_pos starts)
  | cons c left ih =>
      rw [List.cons_append, List.cons_append, aliasPlace_cons, aliasPlace_cons,
        startsAlias_append_as, ih]
      split_ifs
      · rfl
      · cases aliasPlace (left ++ [' ']) <;> rfl

theorem startsAlias_of_aliasPlace {place : Nat} (found : aliasPlace text = some place) :
    startsAlias (text.drop place) = true := by
  induction text generalizing place with
  | nil => cases found
  | cons c rest ih =>
      rw [aliasPlace_cons] at found
      split_ifs at found with starts
      · cases found
        exact starts
      · obtain ⟨before, there, rfl⟩ := Option.map_eq_some_iff.mp found
        exact ih there

theorem aliasPlace_ne_none {place : Nat} (starts : startsAlias (text.drop place) = true) :
    aliasPlace text ≠ none := by
  intro missing
  have other := List.findIdx?_eq_none_iff.mp missing _
    ((List.mem_tails _ _).mpr (List.drop_suffix place text))
  rw [starts] at other
  cases other

/-- A ` as ` that a blank behind a text completes has its other letters at the end of that text. -/
theorem drop_of_completed {place : Nat} (unaliased : aliasPlace left = none)
    (completed : aliasPlace (left ++ [' ']) = some place) :
    (left ++ (" as ".toList ++ right)).drop (place + " as ".length) = "as ".toList ++ right := by
  have starts := startsAlias_of_aliasPlace completed
  have within : place + 3 = left.length := by
    obtain ⟨a, s, tail, same, -⟩ := startsAlias_iff.mp starts
    have length := congrArg List.length same
    simp only [List.length_drop, List.length_append, List.length_cons, List.length_nil] at length
    by_contra other
    have early : place + 4 ≤ left.length := by omega
    refine @aliasPlace_ne_none left place ?_ unaliased
    rw [List.drop_append_of_le_length (by omega)] at starts
    have taken : (left.drop place ++ [' ']).take 4 = (left.drop place).take 4 :=
      List.take_append_of_le_length (by rw [List.length_drop]; omega)
    rwa [startsAlias, taken] at starts
  have next : place + " as ".length = left.length + 1 := by
    have four : " as ".length = 4 := rfl
    omega
  rw [next, List.drop_append]
  simp

theorem trim_isInfix (text : List Char) : Text.trim text <:+: text :=
  (List.rdropWhile_prefix Text.isBlank (Text.trimStart text)).isInfix.trans
    (List.dropWhile_suffix Text.isBlank).isInfix

theorem countP_trim (text : List Char) :
    (Text.trim text).countP (fun c => !Text.isBlank c) =
      text.countP (fun c => !Text.isBlank c) := by
  have dropped (text : List Char) : (text.dropWhile Text.isBlank).countP (fun c => !Text.isBlank c) =
      text.countP (fun c => !Text.isBlank c) := by
    induction text with
    | nil => rfl
    | cons c rest ih =>
        rw [List.dropWhile_cons]
        split_ifs with blank
        · rw [ih, List.countP_cons_of_neg (by simp [blank])]
        · rfl
  rw [Text.trim, Text.trimEnd, List.countP_reverse, dropped, List.countP_reverse, Text.trimStart,
    dropped]

namespace Dialect

variable {dialect : Dialect}

/-! What is written for a qualified column -/

theorem reference_injective {first second : Reference} (named : first.path ≠ [])
    (namedToo : second.path ≠ []) (same : dialect.reference first = dialect.reference second) :
    first = second := by
  have read := @Reference.read_reference dialect first named
  rw [same, Reference.read_reference second namedToo] at read
  exact (Option.some.inj read).symm

theorem path_append_singleton {identifiers : List String} (named : identifiers ≠ [])
    (last : String) :
    dialect.path (identifiers ++ [last]) = dialect.path identifiers ++ "." ++ dialect.quoted last := by
  have written : identifiers.map dialect.quoted ≠ [] := by simpa using named
  rw [path, path, List.map_append, List.map_singleton,
    String.intercalate_append_of_ne_nil written (by simp), String.intercalate_singleton]

theorem columnIdentifiers_qualified {table column : String} (undotted : '.' ∉ column.toList) :
    dialect.columnIdentifiers (table ++ "." ++ column) =
      dialect.prefixed ((table.toList.splitOn '.').map String.ofList ++ [column]) := by
  have parts : (table ++ "." ++ column).toList.splitOn '.' =
      table.toList.splitOn '.' ++ [column.toList] := by
    rw [String.toList_append, String.toList_append, List.append_assoc]
    exact (List.splitOn_append_cons_self _ _).trans
      (congrArg _ (List.splitOn_eq_singleton undotted))
  rw [columnIdentifiers, parts, List.map_append, List.map_singleton, String.ofList_toList]

theorem columnReference_qualified_iff {table column : String} {path : List String}
    (undotted : '.' ∉ column.toList) :
    dialect.columnReference (table ++ "." ++ column) = ⟨path, none⟩ ↔
      aliasPlace table.toList = none ∧ aliasPlace column.toList = none ∧
        dialect.prefixed ((table.toList.splitOn '.').map String.ofList ++ [column]) = path := by
  have divided : (table ++ "." ++ column).toList = table.toList ++ '.' :: column.toList := by
    simp [String.toList_append]
  unfold columnReference
  rw [columnIdentifiers_qualified undotted, ← and_assoc, ← aliasPlace_append_dot_eq_none, ← divided]
  cases aliasPlace (table ++ "." ++ column).toList <;> simp

theorem length_prefixed (identifiers : List String) :
    (dialect.prefixed identifiers).length = identifiers.length := by
  rcases identifiers with _ | ⟨table, _ | ⟨next, rest⟩⟩ <;> rfl

/-- The identifiers in front of a qualified column are those of the table, if the table has no
schema, or one without dots while there is no prefix. -/
theorem prefixed_eq_tableIdentifiers_iff (table column : String) :
    dialect.prefixed ((table.toList.splitOn '.').map String.ofList ++ [column]) =
        dialect.tableIdentifiers table ++ [column] ↔
      table.toList.count '.' = 0 ∨ table.toList.count '.' = 1 ∧ dialect.tablePrefix = "" := by
  by_cases dotted : '.' ∈ table.toList
  · have whole := beforeDot_append_behindDot dotted
    have last := List.splitOn_eq_singleton (behindDot_undotted table.toList)
    have parts : table.toList.splitOn '.' =
        (beforeDot table.toList).splitOn '.' ++ [behindDot table.toList] := by
      conv_lhs => rw [← whole, List.splitOn_append_cons_self, last]
    have dots : table.toList.count '.' = (beforeDot table.toList).count '.' + 1 := by
      conv_lhs => rw [← whole, List.count_append, List.count_cons_self,
        List.count_eq_zero.mpr (behindDot_undotted _)]
    rw [tableIdentifiers, if_pos dotted, parts, dots]
    by_cases further : '.' ∈ (beforeDot table.toList)
    · have schema : (beforeDot table.toList).splitOn '.' =
          (beforeDot (beforeDot table.toList)).splitOn '.' ++
            (behindDot (beforeDot table.toList)).splitOn '.' := by
        conv_lhs => rw [← beforeDot_append_behindDot further, List.splitOn_append_cons_self]
      have first := List.length_pos_of_ne_nil
        (List.splitOn_ne_nil '.' (beforeDot (beforeDot table.toList)))
      have second := List.length_pos_of_ne_nil
        (List.splitOn_ne_nil '.' (behindDot (beforeDot table.toList)))
      have more := List.count_pos_iff.mpr further
      refine iff_of_false (fun same => ?_) (by omega)
      have lengths := congrArg List.length same
      rw [length_prefixed, schema] at lengths
      simp only [List.length_append, List.length_map, List.length_cons, List.length_nil] at lengths
      omega
    · have none := List.count_eq_zero.mpr further
      rw [List.splitOn_eq_singleton further, none]
      have last (unprefixed : dialect.tablePrefix = "") (name : String) :
          name = dialect.tablePrefix ++ name := by
        rw [unprefixed, String.empty_append]
      simpa [prefixed] using fun unprefixed => last unprefixed _
  · have none := List.count_eq_zero.mpr dotted
    rw [tableIdentifiers, if_neg dotted, List.splitOn_eq_singleton dotted, none]
    simp [prefixed]

/-! The table that a qualified column names -/

theorem table_qualifies_iff {table column : String} (unaliased : aliasPlace table.toList = none)
    (undotted : '.' ∉ column.toList) :
    dialect.column (table ++ "." ++ column) =
        dialect.table table ++ "." ++ dialect.quoted column ↔
      aliasPlace column.toList = none ∧
        (table.toList.count '.' = 0 ∨ table.toList.count '.' = 1 ∧ dialect.tablePrefix = "") := by
  have named : dialect.tableIdentifiers table ≠ [] := by
    have path := dialect.tableReference_path_ne_nil table
    rwa [tableReference, unaliased] at path
  have behind : dialect.table table ++ "." ++ dialect.quoted column =
      dialect.reference ⟨dialect.tableIdentifiers table ++ [column], none⟩ := by
    rw [table_eq_reference, tableReference, unaliased]
    simp [reference, path_append_singleton named]
  have same : dialect.column (table ++ "." ++ column) =
        dialect.table table ++ "." ++ dialect.quoted column ↔
      dialect.columnReference (table ++ "." ++ column) =
        ⟨dialect.tableIdentifiers table ++ [column], none⟩ := by
    rw [behind, column_eq_reference]
    exact ⟨reference_injective (columnReference_path_ne_nil _) (by simp), congrArg _⟩
  rw [same, columnReference_qualified_iff undotted, prefixed_eq_tableIdentifiers_iff]
  exact and_iff_right unaliased

theorem readPath_behind {identifiers : List String} (filled : identifiers ≠ []) (rest : List Char)
    (ends : rest.head? ≠ some dialect.vendor.quote) (whole : rest.head? ≠ some '.') :
    Reference.readPath dialect.vendor.quote ((dialect.path identifiers).toList ++ rest) =
      some (identifiers, rest) := by
  obtain ⟨first, segments, rfl⟩ := List.exists_cons_of_ne_nil filled
  exact Reference.readPath_path first segments ends whole

/-- The text behind the AS of a table is its alias in quotes. -/
theorem shown_of_table {name named : String} {identifiers : List String}
    (filled : identifiers ≠ [])
    (written : dialect.table name = dialect.path identifiers ++ " AS " ++ named) :
    ∃ shown, (dialect.tableReference name).shown = some shown ∧ named = dialect.quoted shown := by
  have opens := (Reference.quote_ne dialect.vendor).2.2.symm
  have found := readPath_behind filled (" AS ".toList ++ named.toList) (by simpa using opens)
    (by simp)
  have path := dialect.tableReference_path_ne_nil name
  have same := congrArg String.toList (written.symm.trans (table_eq_reference name))
  rw [String.toList_append, String.toList_append, List.append_assoc, reference,
    String.toList_append] at same
  rw [same] at found
  cases aliased : (dialect.tableReference name).shown with
  | none =>
      have plain := @readPath_behind dialect _ path [] (by simp) (by simp)
      rw [aliased, Option.elim_none, String.toList_empty, plain] at found
      simp at found
  | some shown =>
      have read := readPath_behind path (" AS ".toList ++ (dialect.quoted shown).toList)
        (by simpa using opens) (by simp)
      rw [aliased, Option.elim_some, String.toList_append, read] at found
      obtain ⟨-, behind⟩ := Prod.mk.inj (Option.some.inj found)
      exact ⟨shown, rfl, (String.toList_inj.mp (List.append_cancel_left behind)).symm⟩

/-- The alias of a table that is written with one, if no ` as ` begins in front of it. -/
theorem tableReference_shown {table shown : String}
    (unaliased : aliasPlace (table.toList ++ [' ']) = none) :
    dialect.tableReference (table ++ " as " ++ shown) =
      ⟨dialect.tableIdentifiers (String.ofList (Text.trim table.toList)),
        some (dialect.tablePrefix ++ String.ofList (Text.trim shown.toList))⟩ := by
  have place : aliasPlace (table ++ " as " ++ shown).toList = some table.toList.length := by
    rw [String.toList_append, String.toList_append, List.append_assoc, aliasPlace_append_as,
      unaliased]
    rfl
  have before : (table ++ " as " ++ shown).toList.take table.toList.length = table.toList := by
    rw [String.toList_append, String.toList_append, List.append_assoc, List.take_left]
  have behind : (table ++ " as " ++ shown).toList.drop (table.toList.length + " as ".length) =
      shown.toList := by
    rw [← String.length_toList, ← List.length_append, String.toList_append, String.toList_append,
      List.drop_left]
  rw [tableReference, place]
  simp only [beforeAlias, behindAlias, before, behind]

/-- A table whose own last letters are those of an ` as ` gets them into its alias. -/
theorem tableReference_shown_of_completed {table shown : String} {place : Nat}
    (unaliased : aliasPlace table.toList = none)
    (completed : aliasPlace (table.toList ++ [' ']) = some place) :
    (dialect.tableReference (table ++ " as " ++ shown)).shown =
      some (dialect.tablePrefix ++ String.ofList (Text.trim ("as ".toList ++ shown.toList))) := by
  have found : aliasPlace (table ++ " as " ++ shown).toList = some place := by
    rw [String.toList_append, String.toList_append, List.append_assoc, aliasPlace_append_as,
      completed]
    rfl
  have behind := @drop_of_completed _ shown.toList _ unaliased completed
  rw [← List.append_assoc, ← String.toList_append, ← String.toList_append] at behind
  rw [tableReference, found]
  simp only [behindAlias, behind]

theorem trim_as_ne (text : List Char) : Text.trim ("as ".toList ++ text) ≠ text := by
  intro same
  have letters := countP_trim ("as ".toList ++ text)
  have two : "as ".toList.countP (fun c => !Text.isBlank c) = 2 := by decide
  rw [same, List.countP_append, two] at letters
  omega

/-- A column that is qualified with an alias is written behind the text of the alias, just if the
alias and the column have no ` as ` in them, the alias no blanks at its ends, and the table none of
the letters that make an ` as ` of the blank behind it. -/
theorem alias_qualifies_iff {table column shown : String}
    (unaliased : aliasPlace table.toList = none) (undotted : '.' ∉ column.toList)
    (undottedShown : '.' ∉ shown.toList) :
    (∃ named, dialect.table (table ++ " as " ++ shown) =
          dialect.tablePath (String.ofList (Text.trim table.toList)) ++ " AS " ++ named ∧
        dialect.column (shown ++ "." ++ column) = named ++ "." ++ dialect.quoted column) ↔
      aliasPlace (table.toList ++ [' ']) = none ∧ aliasPlace shown.toList = none ∧
        aliasPlace column.toList = none ∧ Text.trim shown.toList = shown.toList := by
  have identifiers (shown' : String) :
      dialect.quoted shown' ++ "." ++ dialect.quoted column =
        dialect.reference ⟨[shown', column], none⟩ := by
    simp [reference, path, String.intercalate_cons_cons]
  have qualified : dialect.prefixed ((shown.toList.splitOn '.').map String.ofList ++ [column]) =
      [dialect.tablePrefix ++ shown, column] := by
    rw [List.splitOn_eq_singleton undottedShown, List.map_singleton, String.ofList_toList]
    rfl
  have filled (name : String) : dialect.tableIdentifiers name ≠ [] := by
    unfold tableIdentifiers
    split_ifs <;> simp
  constructor
  · rintro ⟨named, written, behind⟩
    rw [tablePath_eq_path] at written
    obtain ⟨shown', found, rfl⟩ := shown_of_table (filled _) written
    rw [identifiers, column_eq_reference] at behind
    have read := reference_injective (columnReference_path_ne_nil _) (by simp) behind
    obtain ⟨plain, plainToo, same⟩ := (columnReference_qualified_iff undotted).mp read
    rw [qualified, List.cons.injEq] at same
    obtain ⟨rfl, -⟩ := same
    cases completed : aliasPlace (table.toList ++ [' ']) with
    | some place =>
        rw [tableReference_shown_of_completed unaliased completed, Option.some.injEq,
          String.append_right_inj, ← String.toList_inj, String.toList_ofList] at found
        exact absurd found (trim_as_ne _)
    | none =>
        rw [tableReference_shown completed, Option.some.injEq, String.append_right_inj,
          ← String.toList_inj, String.toList_ofList] at found
        exact ⟨rfl, plain, plainToo, found⟩
  · rintro ⟨uncompleted, plain, plainToo, trimmed⟩
    have read := (columnReference_qualified_iff undotted).mpr ⟨plain, plainToo, qualified⟩
    refine ⟨dialect.quoted (dialect.tablePrefix ++ shown), ?_, ?_⟩
    · rw [table_eq_reference, tableReference_shown uncompleted, trimmed, String.ofList_toList,
        tablePath_eq_path, reference, Option.elim_some, String.append_assoc]
    · rw [identifiers, column_eq_reference, read]

/-- A qualified column is written behind the text of its table, and behind the alias that the table
is given, just in these cases; in the others its qualifier names no table of the statement. -/
theorem qualified_columns_name_table_iff (dialect : Dialect) {table column shown : String}
    (unaliased : aliasPlace table.toList = none) (undotted : '.' ∉ column.toList)
    (undottedShown : '.' ∉ shown.toList) :
    (dialect.column (table ++ "." ++ column) =
        dialect.table table ++ "." ++ dialect.quoted column ↔
      aliasPlace column.toList = none ∧
        (table.toList.count '.' = 0 ∨ table.toList.count '.' = 1 ∧ dialect.tablePrefix = "")) ∧
    ((∃ named, dialect.table (table ++ " as " ++ shown) =
          dialect.tablePath (String.ofList (Text.trim table.toList)) ++ " AS " ++ named ∧
        dialect.column (shown ++ "." ++ column) = named ++ "." ++ dialect.quoted column) ↔
      aliasPlace (table.toList ++ [' ']) = none ∧ aliasPlace shown.toList = none ∧
        aliasPlace column.toList = none ∧ Text.trim shown.toList = shown.toList) :=
  ⟨table_qualifies_iff unaliased undotted, alias_qualifies_iff unaliased undotted undottedShown⟩

theorem users_qualify_columns :
    let dialect : Dialect := ⟨.postgres, "p_", .percent⟩
    aliasPlace "users".toList = none ∧ '.' ∉ "id".toList ∧ '.' ∉ "u".toList ∧
      dialect.column ("users" ++ "." ++ "id") = dialect.table "users" ++ "." ++ dialect.quoted "id" ∧
      ∃ named, dialect.table ("users" ++ " as " ++ "u") =
          dialect.tablePath (String.ofList (Text.trim "users".toList)) ++ " AS " ++ named ∧
        dialect.column ("u" ++ "." ++ "id") = named ++ "." ++ dialect.quoted "id" := by
  intro dialect
  have unaliased : aliasPlace "users".toList = none := by decide
  have undotted : '.' ∉ "id".toList := by decide
  have undottedShown : '.' ∉ "u".toList := by decide
  obtain ⟨qualified, shown⟩ :=
    qualified_columns_name_table_iff dialect unaliased undotted undottedShown
  exact ⟨unaliased, undotted, undottedShown, qualified.mpr ⟨by decide, .inl (by decide)⟩,
    shown.mpr (by decide)⟩

/-- The prefix is put on the schema in front of a column, and on the table where it is introduced. -/
theorem schema_misses_table :
    let dialect : Dialect := ⟨.postgres, "p_", .percent⟩
    aliasPlace "s.users".toList = none ∧ '.' ∉ "id".toList ∧
      dialect.table "s.users" = "\"s\".\"p_users\"" ∧
      dialect.column "s.users.id" = "\"p_s\".\"users\".\"id\"" ∧
      dialect.column "s.users.id" ≠ dialect.table "s.users" ++ "." ++ dialect.quoted "id" := by
  decide

end Dialect

end SqlToolkit
