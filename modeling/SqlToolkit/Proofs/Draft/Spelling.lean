import SqlToolkit.Proofs.Draft.Steps
/-!
The texts that a dialect writes spell the filled texts of a draft, function by function: a marker
stands wherever the draft has a value, and nowhere else.
-/

namespace SqlToolkit

variable {dialect : Dialect}

namespace Dialect

theorem Spells.eq_empty_iff {text : String} {filled : Filled}
    (spelled : dialect.Spells text filled) : text = "" ↔ filled = [] := by
  constructor
  · rintro rfl
    have none : filled.pattern = [] := spelled.pieces.symm
    exact List.map_eq_nil_iff.mp none
  · rintro rfl
    have none : dialect.pieces Option.none text.toList = [] := spelled.pieces
    exact String.toList_eq_nil_iff.mp (pieces_eq_nil_iff.mp none)

theorem Spells.cast {text other : String} {filled : Filled} (spelled : dialect.Spells text filled)
    (same : text = other) : dialect.Spells other filled :=
  same ▸ spelled

/-! Lists of texts -/

theorem Spells.joinParts {texts : List String} {filled : List Filled}
    (spelled : List.Forall₂ dialect.Spells texts filled) :
    dialect.Spells (SqlToolkit.joinParts texts) (Filled.joinParts filled) := by
  refine Spells.intercalate (by decide) ?_
  refine List.rel_filter ?_ spelled
  intro text part single
  simp [single.eq_empty_iff]

/-- A text and a filled one in a list of predicates, behind the same connective. -/
structure ChainSpells (dialect : Dialect) (text : Connective × String)
    (filled : Connective × Filled) : Prop where
  connective : text.1 = filled.1
  spelled : dialect.Spells text.2 filled.2

theorem Spells.chain {texts : List (Connective × String)} {filled : List (Connective × Filled)}
    (chained : List.Forall₂ dialect.ChainSpells texts filled) :
    dialect.Spells (SqlToolkit.chain texts) (Filled.chain filled) := by
  cases chained with
  | nil => exact silent_empty
  | @cons first head rest tail opened others =>
      refine Spells.intercalate (by decide) (.cons opened.spelled ?_)
      induction others with
      | nil => exact .nil
      | @cons text part rest tail next others ih =>
          refine .cons ?_ ih
          change dialect.Spells (text.1.text ++ " " ++ text.2)
            (Filled.ofText (part.1.text ++ " ") ++ part.2)
          rw [next.connective]
          exact next.spelled.prepend (by cases part.1 <;> decide)

theorem Spells.headed {texts : List (Connective × String)} {filled : List (Connective × Filled)}
    {word : String} (chained : List.Forall₂ dialect.ChainSpells texts filled)
    (inert : Inert (word ++ " ")) :
    dialect.Spells (SqlToolkit.headed word texts) (Filled.headed word filled) := by
  cases chained with
  | nil => exact silent_empty
  | cons opened others => exact (Spells.chain (.cons opened others)).prepend inert

theorem Spells.enclosed {text : String} {filled : Filled} (spelled : dialect.Spells text filled) :
    dialect.Spells ("(" ++ text ++ ")") filled.enclosed :=
  (spelled.prepend (by decide)).close (by decide)

/-! Fragments, names and operands -/

theorem Supplied.fill {sql : String} {values : List Value}
    (supplied : dialect.Supplied sql values) :
    dialect.fill sql values = some (dialect.supply sql values) := by
  obtain ⟨filled, put⟩ := Pattern.fill_exists supplied.2
  rw [supply, Dialect.fill, put]
  rfl

theorem Supplied.spells {sql : String} {values : List Value}
    (supplied : dialect.Supplied sql values) : dialect.Spells sql (dialect.supply sql values) where
  closed := supplied.1
  pieces := (Pattern.of_fill supplied.fill).1.symm

theorem Supplied.values {sql : String} {values : List Value}
    (supplied : dialect.Supplied sql values) : (dialect.supply sql values).values = values :=
  (Pattern.of_fill supplied.fill).2

theorem Supplied.silent {sql : String} (supplied : dialect.Supplied sql []) :
    dialect.Silent sql where
  closed := supplied.1
  pieces := by
    have none : (dialect.pieces Option.none sql.toList).slots = 0 := supplied.2
    rw [Filled.pattern_ofText]
    exact pieces_slotless none

theorem silent_columnRef {column : Identifier} (fair : column.Fair dialect) :
    dialect.Silent (dialect.columnRef column) := by
  cases column with
  | named name => exact silent_column name
  | verbatim sql => exact Supplied.silent fair

theorem silent_tableRef {table : Identifier} (fair : table.Fair dialect) :
    dialect.Silent (dialect.tableRef table) := by
  cases table with
  | named name => exact silent_table name
  | verbatim sql => exact Supplied.silent fair

theorem silent_columnRefs {columns : List Identifier}
    (fair : ∀ column ∈ columns, column.Fair dialect) :
    dialect.Silent (dialect.columnRefs columns) := by
  refine Silent.intercalate (by decide) fun text member => ?_
  obtain ⟨column, listed, rfl⟩ := List.mem_map.mp member
  exact silent_columnRef (fair column listed)

theorem spells_parameter {operand : Operand} (fair : operand.Fair dialect) :
    dialect.Spells (dialect.parameter operand) (Filled.operand operand) := by
  cases operand with
  | bound value => exact spells_marker value
  | verbatim sql => exact Supplied.silent fair

end Dialect

end SqlToolkit
