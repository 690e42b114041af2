import SqlToolkit.Proofs.Alterations.Declarations
import SqlToolkit.Proofs.Columns.Clauses
/-!
The clauses of a column definition. The type and the modifiers contribute them one by one; each kind
stands there once, but for the default of a timestamp.
-/

namespace SqlToolkit

/-! Defaults -/

/-- An expression that is written verbatim gives way to a text. -/
def DefaultValue.masked : DefaultValue → DefaultValue
  | verbatim _ => text "expression"
  | value => value

/-- The column without the expression that it may have for a default. -/
def Column.masked (column : Column) : Column :=
  { column with default := column.default.map DefaultValue.masked }

theorem Column.masked_eq {column : Column}
    (written : ∀ sql, column.default ≠ some (.verbatim sql)) : column.masked = column := by
  have same : column.default.map DefaultValue.masked = column.default := by
    cases given : column.default with
    | none => rfl
    | some value =>
        cases value with
        | verbatim sql => exact absurd given (written sql)
        | _ => rfl
  rw [masked, same]

theorem enclosed_of_unquoted {text : String} (unquoted : '\x27' ∉ text.toList) :
    "'" ++ text ++ "'" = Text.enclosed '\x27' text := by
  rw [← String.toList_inj, Text.enclosed, String.toList_ofList,
    Reading.doubled_of_not_mem unquoted]
  simp [String.toList_append]

theorem DefaultValue.reads_masked {vendor : Vendor} (value : DefaultValue) :
    ∃ tree, vendor.Reads value.masked.literal [tree] := by
  have quoted : ∀ text, ∃ tree, vendor.Reads (Text.enclosed '\x27' text) [tree] :=
    fun text => ⟨.leaf (.quoted '\x27' text.toList),
      Vendor.lexes_enclosed (by simp [Vendor.isQuote]) text⟩
  cases value with
  | null => exact ⟨wordTree "NULL", by cases vendor <;> decide⟩
  | boolean value =>
      have digit : '\x27' ∉ (if value then "1" else "0").toList := by cases value <;> decide
      obtain ⟨tree, reads⟩ := quoted (if value then "1" else "0")
      rw [← enclosed_of_unquoted digit] at reads
      refine ⟨tree, ?_⟩
      cases value <;> exact reads
  | integer value =>
      show ∃ tree, vendor.Reads ("'" ++ toString value ++ "'") [tree]
      rw [enclosed_of_unquoted (unquoted_integer value)]
      exact quoted _
  | float value =>
      show ∃ tree, vendor.Reads ("'" ++ value.positional ++ "'") [tree]
      rw [enclosed_of_unquoted (unquoted_double value)]
      exact quoted _
  | text value => exact quoted value
  | verbatim sql => exact quoted "expression"

/-- The clauses of a modifier, by what is true of a column: it has no negative numbers, may be null,
is given a default, or counts up. -/
def Modifier.clauses (unsigned nullable given counted : Bool) : Modifier → List ColumnClause
  | .unsigned => if unsigned then [.unsigned] else []
  | .nullable => if nullable then [.null] else [.notNull]
  | .default => if given then [.default] else []
  | .increment => if counted then [.primaryKey] else []
  | _ => []

namespace Column

/-- The clauses that the type of a column brings with it. -/
def typeClauses (column : Column) : List ColumnClause :=
  if column.type = .timestamp && column.useCurrent then [.default] else []

def modifierClauses (column : Column) : Modifier → List ColumnClause :=
  Modifier.clauses (column.unsigned && column.isInteger) column.nullable column.default.isSome
    (column.autoIncrement && column.isInteger)

end Column

/-- A name of a character set or a collation: whatever it is made of begins no clause. -/
def SchemaDialect.Bare (dialect : SchemaDialect) (name : String) : Prop :=
  ∃ trees, dialect.vendor.Reads name trees ∧ Avoid declarationWords trees

/-- The names that only one vendor writes, and writes as they are given. -/
def Column.NamesBare (dialect : SchemaDialect) (column : Column) : Prop :=
  dialect.vendor = .mysql →
    (∀ name ∈ column.charset, dialect.Bare name) ∧ ∀ name ∈ column.collation, dialect.Bare name

namespace SchemaDialect

variable {dialect : SchemaDialect}

/-! Types -/

section Types

variable {vendor : Vendor} (column : Column)

/-- A time with its precision, in no zone. -/
def timeTrees (name : String) : List Tree :=
  [wordTree name, .parens [wordTree "6"], wordTree "WITHOUT", wordTree "TIME", wordTree "ZONE"]

theorem avoid_timeTrees {name : String} (other : Text.asciiLower name ∉ declarationWords) :
    Avoid declarationWords (timeTrees name) :=
  .word other (.parens (.word (by decide) (.word (by decide) (.word (by decide) .nil))))

theorem reads_quotedTexts (texts : List String) :
    ∃ trees, dialect.vendor.Reads (quotedTexts texts) trees :=
  ⟨_, @Dialect.reads_list dialect.toDialect String (Text.enclosed '\x27')
    (fun text => [.leaf (.quoted '\x27' text.toList)]) texts
    fun text _ => Vendor.lexes_enclosed (by simp [Vendor.isQuote]) text⟩

theorem reads_precision (total places : Nat) :
    ∃ trees, dialect.vendor.Reads (toString total ++ ", " ++ toString places) trees :=
  ⟨_, (@Dialect.reads_number dialect.toDialect total).join Dialect.seam_comma
    (Dialect.reads_number places)⟩

/-- A type whose words begin no clause, with a default behind it. -/
theorem declares_defaulted {text type : String} {value : String}
    (reads : vendor.Reads text [wordTree type, wordTree "DEFAULT", wordTree value])
    (other : Text.asciiLower type ∉ declarationWords) : vendor.Declares text [.default] :=
  ⟨_, reads, (AmountTo.of_avoid (.word other .nil)).append (.default _)⟩

theorem declares_sqliteType : vendor.Declares (sqliteType column) column.typeClauses := by
  unfold sqliteType Column.typeClauses
  cases column.type with
  | timestamp =>
      cases column.useCurrent with
      | false => show vendor.Declares "DATETIME" []; exact .words (by decide)
      | true =>
          have reads : vendor.Reads "DATETIME DEFAULT CURRENT_TIMESTAMP"
              [wordTree "DATETIME", wordTree "DEFAULT", wordTree "CURRENT_TIMESTAMP"] := by
            cases vendor <;> decide
          exact declares_defaulted reads (by decide)
  | _ => dsimp only; exact .words (by decide)

/-- A type with one number in parentheses. -/
theorem declares_withLength (name : String) (opens : dialect.vendor.Lexes (name ++ "(")
      [.atom (.word name.toList), .opening]) (other : Text.asciiLower name ∉ declarationWords) :
    dialect.vendor.Declares (withLength name column) [] :=
  .bracket (name ++ "(") [wordTree name] opens (endsBroken_append (by decide) name)
    (.word other .nil) (@Dialect.reads_number dialect.toDialect _)

theorem declares_withPrecision (name : String) (opens : dialect.vendor.Lexes (name ++ "(")
      [.atom (.word name.toList), .opening]) (word : dialect.vendor.Reads name [wordTree name])
      (other : Text.asciiLower name ∉ declarationWords) :
    dialect.vendor.Declares (withPrecision name column) [] := by
  unfold withPrecision
  split
  · obtain ⟨trees, reads⟩ := @reads_precision dialect _ _
    have whole := Vendor.Declares.bracket (name ++ "(") [wordTree name] opens
      (endsBroken_append (by decide) name) (.word other .nil) reads
    simpa only [String.append_assoc] using whole
  · exact .of_avoid _ word (.word other .nil)

theorem declares_mysqlType (mysql : dialect.vendor = .mysql) :
    dialect.vendor.Declares (dialect.mysqlType column) column.typeClauses := by
  unfold mysqlType Column.typeClauses
  cases column.type with
  | char => exact declares_withLength column "CHAR" (by rw [mysql]; decide) (by decide)
  | string => exact declares_withLength column "VARCHAR" (by rw [mysql]; decide) (by decide)
  | float | double | decimal =>
      exact declares_withPrecision column _ (by rw [mysql]; decide) (by rw [mysql]; decide)
        (by decide)
  | boolean =>
      have reads : dialect.vendor.Reads "TINYINT(1)"
          [wordTree "TINYINT", .parens [wordTree "1"]] := by rw [mysql]; decide
      exact .of_avoid _ reads (.word (by decide) (.parens .nil))
  | enumeration =>
      obtain ⟨trees, reads⟩ := @reads_quotedTexts dialect column.allowed
      exact .bracket "ENUM(" [wordTree "ENUM"] (by rw [mysql]; decide) (by decide)
        (.word (by decide) .nil) reads
  | json => dsimp only; split <;> exact .words (by decide)
  | timestamp =>
      cases column.useCurrent with
      | false => show dialect.vendor.Declares "TIMESTAMP" []; exact .words (by decide)
      | true =>
          show dialect.vendor.Declares (if dialect.atLeast 5 6 then
            "TIMESTAMP DEFAULT CURRENT_TIMESTAMP" else "TIMESTAMP DEFAULT 0") [.default]
          have current : dialect.vendor.Reads "TIMESTAMP DEFAULT CURRENT_TIMESTAMP"
              [wordTree "TIMESTAMP", wordTree "DEFAULT", wordTree "CURRENT_TIMESTAMP"] := by
            rw [mysql]; decide
          have zero : dialect.vendor.Reads "TIMESTAMP DEFAULT 0"
              [wordTree "TIMESTAMP", wordTree "DEFAULT", wordTree "0"] := by rw [mysql]; decide
          split
          · exact declares_defaulted current (by decide)
          · exact declares_defaulted zero (by decide)
  | _ => dsimp only; exact .words (by decide)

/-- What the condition on the values of a column holds stands in its parentheses. -/
theorem declares_enumerationCheck :
    dialect.vendor.Declares ("VARCHAR(255) " ++ dialect.enumerationCheck column) [] := by
  obtain ⟨trees, reads⟩ := @reads_quotedTexts dialect column.allowed
  have seam : dialect.vendor.Seam " IN (" (flatAll [wordTree "IN"] ++ [Lexeme.opening]) := by
    cases dialect.vendor <;> decide
  have membership := (@Dialect.reads_column dialect.toDialect column.name).enclose seam reads
  have opens : dialect.vendor.Lexes "VARCHAR(255) CHECK ("
      (flatAll [wordTree "VARCHAR", .parens [wordTree "255"], wordTree "CHECK"] ++
        [Lexeme.opening]) := by
    cases dialect.vendor <;> decide
  have whole := Vendor.Declares.bracket "VARCHAR(255) CHECK (" _ opens (by decide)
    (.word (by decide) (.parens (.word (by decide) .nil))) membership
  have same : "VARCHAR(255) " ++ dialect.enumerationCheck column = "VARCHAR(255) CHECK (" ++
      (dialect.column column.name ++ " IN (" ++ quotedTexts column.allowed ++ ")") ++ ")" := by
    have front : "VARCHAR(255) " ++ "CHECK (" = "VARCHAR(255) CHECK (" := by decide
    have ending : ")" ++ ")" = "))" := by decide
    rw [enumerationCheck, ← front, ← ending]
    simp only [String.append_assoc]
  rw [same]
  exact whole

theorem declares_postgresType (postgres : dialect.vendor = .postgres) :
    dialect.vendor.Declares (dialect.postgresType column) column.typeClauses := by
  have stamp : dialect.vendor.Declares "TIMESTAMP(6) WITHOUT TIME ZONE" [] := by
    have reads : dialect.vendor.Reads "TIMESTAMP(6) WITHOUT TIME ZONE"
        (timeTrees "TIMESTAMP") := by rw [postgres]; decide
    exact .of_avoid _ reads (avoid_timeTrees (by decide))
  unfold postgresType Column.typeClauses
  cases column.type with
  | char => exact declares_withLength column "CHAR" (by rw [postgres]; decide) (by decide)
  | string => exact declares_withLength column "VARCHAR" (by rw [postgres]; decide) (by decide)
  | integer | mediumInteger | bigInteger | smallInteger | tinyInteger =>
      dsimp only; split <;> exact .words (by decide)
  | decimal =>
      obtain ⟨trees, reads⟩ := @reads_precision dialect (column.total.getD 8) (column.places.getD 2)
      have whole := Vendor.Declares.bracket "DECIMAL(" [wordTree "DECIMAL"]
        (by rw [postgres]; decide) (by decide) (.word (by decide) .nil) reads
      simp only [String.append_assoc] at whole ⊢
      exact whole
  | enumeration => exact declares_enumerationCheck column
  | dateTime => exact stamp
  | time =>
      have reads : dialect.vendor.Reads "TIME(6) WITHOUT TIME ZONE" (timeTrees "TIME") := by
        rw [postgres]; decide
      exact .of_avoid _ reads (avoid_timeTrees (by decide))
  | timestamp =>
      cases column.useCurrent with
      | false => exact stamp
      | true =>
          have reads : dialect.vendor.Reads
              "TIMESTAMP(6) WITHOUT TIME ZONE DEFAULT CURRENT_TIMESTAMP(6)"
              (timeTrees "TIMESTAMP" ++ [wordTree "DEFAULT", wordTree "CURRENT_TIMESTAMP"] ++
                [Tree.parens [wordTree "6"]]) := by rw [postgres]; decide
          have front := (AmountTo.of_avoid (@avoid_timeTrees "TIMESTAMP" (by decide))).append
            (.default (wordTree "CURRENT_TIMESTAMP"))
          exact ⟨_, reads, front.append (.of_avoid (.parens .nil))⟩
  | _ => dsimp only; exact .words (by decide)

theorem declares_columnType :
    dialect.vendor.Declares (dialect.columnType column) column.typeClauses := by
  unfold columnType
  split
  case h_1 sqlite => exact declares_sqliteType column
  case h_2 mysql => exact declares_mysqlType column mysql
  case h_3 postgres => exact declares_postgresType column postgres

end Types

/-! Modifiers -/

section Modifiers

variable {column : Column}

theorem bare_enclosed (text : String) : dialect.Bare (Text.enclosed '\x27' text) := by
  have quotes : dialect.vendor.isQuote '\x27' = true := by simp [Vendor.isQuote]
  exact ⟨[.leaf (.quoted '\x27' text.toList)], Vendor.lexes_enclosed quotes text,
    .cons (fun _ _ => rfl) .nil⟩

theorem bare_column (name : String) : dialect.Bare (dialect.column name) :=
  ⟨_, Dialect.reads_column name, Dialect.avoid_columnTrees name (by decide)⟩

/-- A text that begins no clause, behind its words. -/
theorem continues_aside {α : Type} {word : String} {trees : List Tree} (value : Option α)
    (text : α → String) (seam : dialect.vendor.Seam word (flatAll trees))
    (avoid : Avoid declarationWords trees) (bare : ∀ x ∈ value, dialect.Bare (text x)) :
    dialect.vendor.Continues ((value.map (word ++ text ·)).getD "") [] := by
  have continues := Vendor.Continues.ofOption value text [] seam fun x member => by
    obtain ⟨inner, reads, others⟩ := bare x member
    exact ⟨inner, reads, .of_avoid (avoid.append others)⟩
  simpa using continues

theorem continues_nullable :
    dialect.vendor.Continues (dialect.modifier column .nullable)
      (column.modifierClauses .nullable) := by
  show dialect.vendor.Continues (if column.nullable then " NULL" else " NOT NULL")
    (if column.nullable then [.null] else [.notNull])
  have null : dialect.vendor.Reads " NULL" [wordTree "NULL"] := by
    cases dialect.vendor <;> decide
  have notNull : dialect.vendor.Reads " NOT NULL" [wordTree "NOT", wordTree "NULL"] := by
    cases dialect.vendor <;> decide
  cases column.nullable with
  | true => exact .of_reads null (.single (by decide)) (by decide)
  | false => exact .of_reads notNull (.pair (by decide)) (by decide)

theorem continues_default :
    dialect.vendor.Continues (dialect.modifier column.masked .default)
      (column.modifierClauses .default) := by
  have seam : dialect.vendor.Seam " DEFAULT " (flatAll [wordTree "DEFAULT"]) := by
    cases dialect.vendor <;> decide
  have continues := Vendor.Continues.ofOption column.default
    (fun value => value.masked.literal) [.default] seam fun value _ => by
      obtain ⟨tree, reads⟩ := value.reads_masked
      exact ⟨[tree], reads, .default tree⟩
  simpa [SchemaDialect.modifier, Column.masked, Column.modifierClauses, Modifier.clauses,
    Function.comp_def]
    using continues

theorem continues_increment :
    dialect.vendor.Continues (dialect.modifier column .increment)
      (column.modifierClauses .increment) := by
  have key : AmountTo [wordTree "PRIMARY", wordTree "KEY"] [.primaryKey] := .pair (by decide)
  refine .onlyIf _ ?_
  cases dialect.vendor with
  | sqlite =>
      have reads : Vendor.sqlite.Reads (increment .sqlite)
          ([wordTree "PRIMARY", wordTree "KEY"] ++ [wordTree "AUTOINCREMENT"]) := by decide
      exact .of_reads reads (key.append (.of_avoid (.word (by decide) .nil))) (by decide)
  | mysql =>
      have reads : Vendor.mysql.Reads (increment .mysql)
          ([wordTree "AUTO_INCREMENT"] ++ [wordTree "PRIMARY", wordTree "KEY"]) := by decide
      exact .of_reads reads ((AmountTo.of_avoid (.word (by decide) .nil)).append key) (by decide)
  | postgres =>
      have reads : Vendor.postgres.Reads (increment .postgres)
          [wordTree "PRIMARY", wordTree "KEY"] := by decide
      exact .of_reads reads key (by decide)

theorem continues_modifier (bare : column.NamesBare dialect) {modifier : Modifier}
    (written : modifier ∈ dialect.vendor.modifiers) :
    dialect.vendor.Continues (dialect.modifier column.masked modifier)
      (column.modifierClauses modifier) := by
  have named : modifier = .charset ∨ modifier = .collation → dialect.vendor = .mysql := by
    rintro (rfl | rfl) <;> revert written <;> cases dialect.vendor <;> decide
  cases modifier with
  | unsigned =>
      have reads : dialect.vendor.Reads " UNSIGNED" [wordTree "UNSIGNED"] := by
        cases dialect.vendor <;> decide
      exact .onlyIf _ (.of_reads reads (.single (by decide)) (by decide))
  | charset =>
      have seam : dialect.vendor.Seam " CHARACTER SET "
          (flatAll [wordTree "CHARACTER", wordTree "SET"]) := by
        cases dialect.vendor <;> decide
      exact continues_aside _ id seam (.word (by decide) (.word (by decide) .nil))
        (bare (named (.inl rfl))).1
  | collation =>
      have seam : dialect.vendor.Seam " COLLATE " (flatAll [wordTree "COLLATE"]) := by
        cases dialect.vendor <;> decide
      exact continues_aside _ id seam (.word (by decide) .nil) (bare (named (.inr rfl))).2
  | nullable => exact continues_nullable
  | default => exact continues_default
  | increment => exact continues_increment
  | comment =>
      have seam : dialect.vendor.Seam " COMMENT " (flatAll [wordTree "COMMENT"]) := by
        cases dialect.vendor <;> decide
      exact continues_aside _ _ seam (.word (by decide) .nil) fun text _ => bare_enclosed text
  | after =>
      have seam : dialect.vendor.Seam " AFTER " (flatAll [wordTree "AFTER"]) := by
        cases dialect.vendor <;> decide
      exact continues_aside _ _ seam (.word (by decide) .nil) fun name _ => bare_column name

end Modifiers

/-! Definitions -/

section Definitions

variable {column : Column}

/-- The clauses of a column in the order in which a vendor writes them. -/
def definitionClauses (dialect : SchemaDialect) (column : Column) : List ColumnClause :=
  column.typeClauses ++ dialect.vendor.modifiers.flatMap column.modifierClauses

theorem declares_columnDefinition (bare : column.NamesBare dialect) :
    dialect.vendor.Declares (dialect.columnDefinition column.masked)
      (dialect.definitionClauses column) := by
  have blank : dialect.vendor.Declares " " [] :=
    .of_avoid [] (by cases dialect.vendor <;> decide) .nil
  have name : dialect.vendor.Declares (dialect.column column.name) [] :=
    .of_avoid _ (Dialect.reads_column column.name) (Dialect.avoid_columnTrees _ (by decide))
  have front := (name.append blank (.inr (by decide))).append
    (declares_columnType column) (.inl (endsBroken_append (by decide) _))
  exact Vendor.Continues.concat front fun modifier written => continues_modifier bare written

theorem modifier_masked {modifier : Modifier} (other : modifier ≠ .default) :
    dialect.modifier column.masked modifier = dialect.modifier column modifier := by
  cases modifier with
  | default => exact absurd rfl other
  | _ => rfl

/-- The definition with an expression for a default, and without it. -/
theorem columnDefinition_verbatim {sql : String} (given : column.default = some (.verbatim sql)) :
    ∃ front back, dialect.columnDefinition column = front ++ sql ++ back ∧
      dialect.columnDefinition column.masked = front ++ "'expression'" ++ back := by
  obtain ⟨before, after, order, notBefore, notAfter⟩ : ∃ before after : List Modifier,
      dialect.vendor.modifiers = before ++ .default :: after ∧ .default ∉ before ∧
        .default ∉ after := by
    cases dialect.vendor with
    | sqlite => exact ⟨[.nullable], [.increment], by decide⟩
    | mysql =>
        exact ⟨[.unsigned, .charset, .collation, .nullable], [.increment, .comment, .after],
          by decide⟩
    | postgres => exact ⟨[.increment, .nullable], [], by decide⟩
  have same : ∀ modifiers : List Modifier, .default ∉ modifiers →
      modifiers.map (dialect.modifier column.masked) = modifiers.map (dialect.modifier column) :=
    fun modifiers missing => List.map_congr_left fun modifier member =>
      modifier_masked fun equal => missing (equal ▸ member)
  have written : dialect.modifier column .default = " DEFAULT " ++ sql := by
    rw [SchemaDialect.modifier, given]
    rfl
  have masked : dialect.modifier column.masked .default = " DEFAULT " ++ "'expression'" := by
    have quoted : Text.enclosed '\x27' "expression" = "'expression'" := by decide
    rw [SchemaDialect.modifier, Column.masked, given, ← quoted]
    rfl
  refine ⟨dialect.column column.name ++ " " ++ dialect.columnType column ++
    "".intercalate (before.map (dialect.modifier column)) ++ " DEFAULT ",
    "".intercalate (after.map (dialect.modifier column)), ?_, ?_⟩
  · rw [columnDefinition, order, List.map_append, List.map_cons, concat_append,
      ← List.singleton_append, concat_append, written]
    simp [String.append_assoc]
  · rw [columnDefinition, order, List.map_append, List.map_cons, concat_append,
      ← List.singleton_append, concat_append, masked, same before notBefore, same after notAfter]
    simp only [String.append_assoc, String.intercalate_singleton]
    rfl

/-- What the type and the modifiers bring together, whatever a column has. -/
theorem count_clauses (vendor : Vendor) (stamped unsigned nullable given counted : Bool) :
    let clauses := (if stamped then [ColumnClause.default] else []) ++
      vendor.modifiers.flatMap (Modifier.clauses unsigned nullable given counted)
    clauses.count .null + clauses.count .notNull = 1 ∧
      (.null ∈ clauses ↔ nullable = true) ∧ clauses.count .primaryKey ≤ 1 ∧
      (.primaryKey ∈ clauses ↔ counted = true) ∧ (.unsigned ∈ clauses → unsigned = true) ∧
      (clauses.count .default ≤ 1 ↔ ¬ (stamped = true ∧ given = true)) := by
  cases vendor <;> revert stamped unsigned nullable given counted <;> decide

/-- A column may be null or may not, and has at most one key. It has at most one default as well,
unless it is a timestamp with the time of insertion for a default and with another one. -/
theorem one_clause_each_iff (dialect : SchemaDialect) (column : Column)
    (bare : column.NamesBare dialect) :
    (column.masked = column ∨ ∃ sql front back, column.default = some (.verbatim sql) ∧
      dialect.columnDefinition column = front ++ sql ++ back ∧
      dialect.columnDefinition column.masked = front ++ "'expression'" ++ back) ∧
    ∃ trees, dialect.vendor.parse (dialect.columnDefinition column.masked) = some trees ∧
      (columnClauses trees).count .null + (columnClauses trees).count .notNull = 1 ∧
      (.null ∈ columnClauses trees ↔ column.nullable = true) ∧
      (columnClauses trees).count .primaryKey ≤ 1 ∧
      (.primaryKey ∈ columnClauses trees ∨ .unsigned ∈ columnClauses trees →
        column.isInteger = true) ∧
      ((columnClauses trees).count .default ≤ 1 ↔
        ¬ (column.type = .timestamp ∧ column.useCurrent = true ∧ column.default ≠ none)) := by
  refine ⟨?_, ?_⟩
  · by_cases verbatim : ∃ sql, column.default = some (.verbatim sql)
    · obtain ⟨sql, given⟩ := verbatim
      obtain ⟨front, back, parts⟩ := @columnDefinition_verbatim dialect column sql given
      exact .inr ⟨sql, front, back, given, parts⟩
    · exact .inl (Column.masked_eq fun sql given => verbatim ⟨sql, given⟩)
  obtain ⟨trees, reads, amount⟩ := declares_columnDefinition bare
  refine ⟨trees, reads.parse, ?_⟩
  rw [amount.columnClauses_eq]
  obtain ⟨nullability, null, key, counted, unsigned, default⟩ := count_clauses dialect.vendor
    (column.type = .timestamp && column.useCurrent) (column.unsigned && column.isInteger)
    column.nullable column.default.isSome (column.autoIncrement && column.isInteger)
  refine ⟨nullability, null, key, ?_, ?_⟩
  · rintro (stands | stands)
    · exact (Bool.and_eq_true_iff.mp (counted.mp stands)).2
    · exact (Bool.and_eq_true_iff.mp (unsigned stands)).2
  · refine default.trans (not_congr ?_)
    simp [and_assoc, Option.isSome_iff_ne_none]

end Definitions

end SchemaDialect

/-- A timestamp that is the time of insertion, for which a default is given as well. -/
def seen : Column :=
  { type := .timestamp, name := "seen", useCurrent := true, default := some (.text "x") }

/-- A title in letters of a character set has one default. -/
theorem title_has_one_default :
    let dialect : SchemaDialect := { vendor := .mysql, tablePrefix := "", marker := .question }
    let title : Column := { Column.string "title" with
      charset := some "utf8mb4", default := some (.verbatim "(NULL)") }
    title.NamesBare dialect ∧
      ∃ trees, dialect.vendor.parse (dialect.columnDefinition title.masked) = some trees ∧
        (columnClauses trees).count .null + (columnClauses trees).count .notNull = 1 ∧
        (columnClauses trees).count .default ≤ 1 := by
  intro dialect title
  have bare : title.NamesBare dialect := by
    intro _
    refine ⟨fun name given => ?_, nofun⟩
    cases given
    have reads : dialect.vendor.Reads "utf8mb4" [wordTree "utf8mb4"] := by decide
    exact ⟨_, reads, .word (by decide) .nil⟩
  obtain ⟨-, trees, parsed, nullability, -, -, -, default⟩ :=
    SchemaDialect.one_clause_each_iff dialect title bare
  exact ⟨bare, trees, parsed, nullability, default.mpr (by decide)⟩

/-- The time of insertion and the given default both stand in the definition. -/
theorem seen_has_two_defaults :
    let dialect : SchemaDialect := { vendor := .sqlite, tablePrefix := "", marker := .question }
    seen.NamesBare dialect ∧
      dialect.columnDefinition seen =
        "\"seen\" DATETIME DEFAULT CURRENT_TIMESTAMP NOT NULL DEFAULT 'x'" ∧
      (dialect.vendor.parse (dialect.columnDefinition seen)).map columnClauses =
        some [.default, .notNull, .default] := by
  intro dialect
  exact ⟨nofun, by decide, by decide⟩

end SqlToolkit
