import SqlToolkit.Proofs.Alterations.Spelling
import SqlToolkit.Proofs.Markers.Names
/-!
The names and the declarations of columns, as SQLite reads them in a list.
-/

namespace SqlToolkit

open Number Reading

/-- A name that is written as one name in quotes. -/
structure Plain (name : String) : Prop where
  undotted : '.' ∉ name.toList
  unaliased : splitAlias name = none
  unstarred : name ≠ "*"

instance (name : String) : Decidable (Plain name) :=
  decidable_of_iff ('.' ∉ name.toList ∧ splitAlias name = none ∧ name ≠ "*")
    ⟨fun ⟨undotted, unaliased, unstarred⟩ => ⟨undotted, unaliased, unstarred⟩,
      fun ⟨undotted, unaliased, unstarred⟩ => ⟨undotted, unaliased, unstarred⟩⟩

theorem segmentsChars_undotted {name : List Char} (undotted : '.' ∉ name) :
    segmentsChars name = [name] := by
  induction name with
  | nil => rfl
  | cons c rest ih =>
      obtain ⟨ne, more⟩ : '.' ≠ c ∧ '.' ∉ rest := by simpa using undotted
      rw [segmentsChars, if_neg (Ne.symm ne), ih more]

namespace Dialect

variable {dialect : Dialect}

theorem quoted_written (sqlite : dialect.vendor = .sqlite) {name : String}
    (unstarred : name ≠ "*") : (dialect.quoted name).toList = written name := by
  rw [quoted, if_neg unstarred, Text.enclosed, sqlite, String.toList_ofList]
  rfl

theorem column_written (sqlite : dialect.vendor = .sqlite) {name : String} (plain : Plain name) :
    (dialect.column name).toList = written name := by
  have single : segments name = [name] := by
    rw [segments, segmentsChars_undotted plain.undotted, List.map_singleton, String.ofList_toList]
  rw [column, plain.unaliased]
  simp only [columnPath, single]
  exact quoted_written sqlite plain.unstarred

theorem columns_written (sqlite : dialect.vendor = .sqlite) {names : List String}
    (plain : ∀ name ∈ names, Plain name) :
    (dialect.columns names).toList = [',', ' '].intercalate (names.map written) := by
  have same : (names.map dialect.column).map String.toList = names.map written := by
    rw [List.map_map]
    exact List.map_congr_left fun name member => column_written sqlite (plain name member)
  rw [columns, String.toList_intercalate, same]
  rfl

end Dialect

/-! What stands behind a name -/

/-- A declaration that can stand behind the name of a column in a list. -/
structure Legible (declaration : String) : Prop where
  behind : Behind declaration.toList
  closed : Closed declaration.toList

instance (declaration : String) : Decidable (Legible declaration) :=
  decidable_of_iff (Behind declaration.toList ∧ Closed declaration.toList)
    ⟨fun ⟨behind, closed⟩ => ⟨behind, closed⟩, fun ⟨behind, closed⟩ => ⟨behind, closed⟩⟩

theorem closed_append {left right : String} (first : Closed left.toList)
    (second : Closed right.toList) : Closed (left ++ right).toList := by
  rw [String.toList_append]
  exact first.append second

namespace Legible

theorem append {left right : String} (first : Legible left) (second : Legible right) :
    Legible (left ++ right) where
  behind := by
    rw [String.toList_append]
    exact first.behind.join second.behind
  closed := closed_append first.closed second.closed

/-- A word in front keeps off what follows. -/
theorem prepend {word text : String} (first : Legible word) (filled : word ≠ "")
    (closed : Closed text.toList) : Legible (word ++ text) where
  behind := by
    rw [String.toList_append]
    exact first.behind.append (by simpa using filled) text.toList
  closed := closed_append first.closed closed

end Legible

theorem closed_quoted {text : String} (unquoted : '\x27' ∉ text.toList) :
    Closed ("'" ++ text ++ "'").toList := by
  have closed := closed_enclosed (.inl rfl) text.toList
  rw [doubled_of_not_mem unquoted] at closed
  simpa [String.toList_append] using closed

/-! Numbers -/

theorem unquoted_digits (n : Nat) : '\x27' ∉ Nat.toDigits 10 n := by
  intro member
  have digit := Nat.isDigit_of_mem_toDigits (by decide) (by decide) member
  simp at digit

theorem unquoted_integer (n : Int) : '\x27' ∉ (toString n).toList := by
  cases n with
  | ofNat n =>
      show '\x27' ∉ (toString n).toList
      simpa using unquoted_digits n
  | negSucc n =>
      show '\x27' ∉ ("-" ++ toString (n + 1)).toList
      simpa using unquoted_digits (n + 1)

theorem unquoted_decimal (decimal : Decimal) : '\x27' ∉ decimal.positional.toList := by
  have digits := unquoted_digits decimal.digits
  unfold Decimal.positional
  simp only [Decimal.digitText, zeros]
  split
  · simp [digits]
  · split
    · simp [digits]
    · have taken (count : Nat) : '\x27' ∉ (Nat.toDigits 10 decimal.digits).take count :=
        fun member => digits (List.mem_of_mem_take member)
      have dropped (count : Nat) : '\x27' ∉ (Nat.toDigits 10 decimal.digits).drop count :=
        fun member => digits (List.mem_of_mem_drop member)
      simp [taken, dropped]

theorem unquoted_double (x : Double) : '\x27' ∉ x.positional.toList := by
  have decimal := unquoted_decimal (x.shortest .up)
  unfold Double.positional
  cases x.isNaN <;> cases x.negative <;> cases x.isInfinite <;> cases x.isZero <;> simp [decimal]

/-! Defaults and types -/

/-- A default that leaves nothing open; one that is written verbatim could. -/
def DefaultValue.Settled : DefaultValue → Prop
  | verbatim sql => Closed sql.toList
  | _ => True

theorem DefaultValue.closed_literal {default : DefaultValue} (settled : default.Settled) :
    Closed default.literal.toList := by
  cases default with
  | null => decide
  | boolean value => cases value <;> decide
  | integer value => exact closed_quoted (unquoted_integer value)
  | float value => exact closed_quoted (unquoted_double value)
  | text value =>
      rw [literal, Text.enclosed, String.toList_ofList]
      exact closed_enclosed (.inl rfl) value.toList
  | verbatim sql => exact settled

def Column.Settled (column : Column) : Prop :=
  ∀ default, column.default = some default → default.Settled

namespace SchemaDialect

theorem closed_sqliteType (column : Column) : Closed (sqliteType column).toList := by
  unfold sqliteType
  split
  case h_20 => cases column.useCurrent <;> decide
  all_goals decide

variable {dialect : SchemaDialect}

theorem legible_declaration (sqlite : dialect.vendor = .sqlite) {column : Column}
    (settled : column.Settled) :
    Legible (dialect.declaration column) := by
  have type : Legible (" " ++ dialect.columnType column) := by
    refine Legible.prepend (by decide) (by decide) ?_
    rw [columnType, sqlite]
    exact closed_sqliteType column
  have nullable : Legible (dialect.modifier column .nullable) := by
    show Legible (if column.nullable then " NULL" else " NOT NULL")
    cases column.nullable <;> decide
  have default : Legible (dialect.modifier column .default) := by
    show Legible ((column.default.map (" DEFAULT " ++ ·.literal)).getD "")
    cases found : column.default with
    | none => decide
    | some default =>
        exact Legible.prepend (by decide) (by decide)
          (DefaultValue.closed_literal (settled default found))
  have increment : Legible (dialect.modifier column .increment) := by
    show Legible (if column.autoIncrement && column.isInteger then increment dialect.vendor else "")
    rw [sqlite]
    cases column.autoIncrement && column.isInteger <;> decide
  have modifiers : "".intercalate (dialect.vendor.modifiers.map (dialect.modifier column)) =
      dialect.modifier column .nullable ++ dialect.modifier column .default ++
        dialect.modifier column .increment := by
    rw [sqlite]
    simp [Vendor.modifiers, String.intercalate_cons_cons, String.append_assoc]
  rw [declaration, modifiers]
  exact type.append ((nullable.append default).append increment)

end SchemaDialect

/-- The type and the default of a column as they are told leave nothing open. -/
def ColumnInfo.Settled (info : ColumnInfo) : Prop :=
  Closed info.type.toList ∧ ∀ default, info.default = some default → Closed default.toList

theorem ColumnInfo.legible_declaration {info : ColumnInfo} (settled : info.Settled) :
    Legible info.declaration := by
  have type : Legible (if info.type = "" then "" else " " ++ info.type) := by
    split
    · decide
    · exact Legible.prepend (by decide) (by decide) settled.1
  have notNull : Legible (if info.notNull then " NOT NULL" else "") := by
    split <;> decide
  have default : Legible ((info.default.map (" DEFAULT " ++ ·)).getD "") := by
    cases found : info.default with
    | none => decide
    | some default => exact Legible.prepend (by decide) (by decide) (settled.2 default found)
  exact (type.append notNull).append default

end SqlToolkit
