import SqlToolkit.Proofs.Draft.Spelling
import SqlToolkit.Query.Write
/-!
Inserts as trees: the columns that are named, and where the rows come from. A tree tells the text of
a statement with every value in its place, and the rows that the statement creates.
-/

namespace SqlToolkit

/-! Texts with a marker for each value -/

namespace Filled

def rendered (marker : Marker) (filled : Filled) : String :=
  String.ofList (filled.flatMap fun
    | .char c => [c]
    | .slot _ => marker.text.toList)

variable {marker : Marker}

@[simp] theorem rendered_nil : rendered marker [] = "" :=
  rfl

@[simp] theorem rendered_append (left right : Filled) :
    (left ++ right : Filled).rendered marker = left.rendered marker ++ right.rendered marker := by
  simp [rendered]

@[simp] theorem rendered_ofText (text : String) : (ofText text).rendered marker = text := by
  simp [rendered, ofText, List.flatMap_map]

@[simp] theorem rendered_operand {dialect : Dialect} (value : Operand) :
    (operand value).rendered dialect.marker = dialect.parameter value := by
  cases value with
  | bound value => simp [rendered, operand, Dialect.parameter]
  | verbatim sql => exact rendered_ofText sql

theorem rendered_join (separator : String) (texts : List Filled) :
    (join separator texts).rendered marker =
      separator.intercalate (texts.map (rendered marker)) := by
  induction texts with
  | nil => rfl
  | cons first rest ih =>
      cases rest with
      | nil => simp [join]
      | cons next others =>
          rw [join_cons_cons, rendered_append, rendered_append, rendered_ofText, ih, List.map_cons,
            List.map_cons, List.map_cons, String.intercalate_cons_cons]

theorem rendered_join_map {α : Type} {text : α → Filled} {written : α → String}
    (same : ∀ item, (text item).rendered marker = written item) (separator : String)
    (items : List α) :
    (join separator (items.map text)).rendered marker =
      separator.intercalate (items.map written) := by
  rw [rendered_join, List.map_map]
  exact congrArg separator.intercalate (List.map_congr_left fun item _ => same item)

end Filled

/-! Trees -/

/-- Where the rows of an insert come from. A select names each of its operands. -/
inductive InsertSource where
  | defaults
  | values (rows : List (List Operand))
  | selects (rows : List (List (String × Operand)))

structure InsertTree where
  table : Identifier
  columns : List String
  source : InsertSource

namespace InsertSource

def operands : InsertSource → List (List Operand)
  | defaults => [[]]
  | values rows => rows
  | selects rows => rows.map (List.map Prod.snd)

variable (dialect : Dialect)

def tuple (row : List Operand) : Filled :=
  (Filled.join ", " (row.map Filled.operand)).enclosed

def select (row : List (String × Operand)) : Filled :=
  Filled.ofText "SELECT " ++ Filled.join ", " (row.map fun (column, operand) =>
    Filled.operand operand ++ Filled.ofText (" AS " ++ dialect.quoted column))

/-- The words for one row of defaults. -/
def defaultRow : String :=
  match dialect.vendor with
  | .mysql => "() VALUES ()"
  | _ => "DEFAULT VALUES"

def written : InsertSource → Filled
  | defaults => Filled.ofText (defaultRow dialect)
  | values rows => Filled.ofText "VALUES " ++ Filled.join ", " (rows.map tuple)
  | selects rows => Filled.join " UNION ALL " (rows.map (select dialect))

end InsertSource

namespace InsertTree

/-- Every row has an operand for each column, and a select names them after the columns. -/
def Aligned (tree : InsertTree) : Prop :=
  match tree.source with
  | .defaults => tree.columns = []
  | .values rows => ∀ row ∈ rows, row.length = tree.columns.length
  | .selects rows => ∀ row ∈ rows, row.map Prod.fst = tree.columns

/-- The rows that are created. Columns and operands belong together by their places. -/
def rows (tree : InsertTree) : List (List (String × Operand)) :=
  tree.source.operands.map tree.columns.zip

variable (dialect : Dialect)

def written (tree : InsertTree) : Filled :=
  Filled.ofText ("INSERT INTO " ++ dialect.tableRef tree.table ++ " ") ++
    (if tree.columns = [] then [] else Filled.ofText ("(" ++ dialect.columns tree.columns ++ ") ")) ++
    tree.source.written dialect

/-- The statement of a tree: a marker for each value, and the values in the order of the markers. -/
def statement (tree : InsertTree) : Statement where
  sql := (tree.written dialect).rendered dialect.marker
  bindings := (tree.written dialect).values

end InsertTree

/-! The values of a tree -/

theorem InsertSource.values_written (dialect : Dialect) (source : InsertSource) :
    (source.written dialect).values = source.operands.flatMap (List.flatMap Operand.bindings) := by
  cases source with
  | defaults => simp [written, operands]
  | values rows =>
      simp [written, operands, tuple, Filled.values_join, List.flatMap_map]
  | selects rows =>
      simp [written, operands, select, Filled.values_join, List.flatMap_map]

theorem InsertTree.values_written (dialect : Dialect) (tree : InsertTree) :
    (tree.written dialect).values =
      tree.source.operands.flatMap (List.flatMap Operand.bindings) := by
  unfold written
  split_ifs <;> simp [InsertSource.values_written]

/-! A database finds the values of a tree in their places -/

section Spelling

variable {dialect : Dialect}

/-- The markers of the rendered text are the places of the values. -/
def Filled.Spelled (dialect : Dialect) (filled : Filled) : Prop :=
  dialect.Spells (filled.rendered dialect.marker) filled

namespace Filled.Spelled

variable {filled : Filled}

theorem ofSilent {text : String} (silent : dialect.Silent text) :
    Spelled dialect (Filled.ofText text) := by
  rw [Spelled, rendered_ofText]
  exact silent

theorem operand {value : Operand} (fair : value.Fair dialect) :
    Spelled dialect (Filled.operand value) := by
  rw [Spelled, rendered_operand]
  exact Dialect.spells_parameter fair

theorem behind {word : String} (inert : Dialect.Inert word) (spelled : Spelled dialect filled) :
    Spelled dialect (Filled.ofText word ++ filled) := by
  rw [Spelled, rendered_append, rendered_ofText]
  exact spelled.prepend inert

theorem enclosed (spelled : Spelled dialect filled) : Spelled dialect filled.enclosed := by
  rw [Spelled, Filled.enclosed, rendered_append, rendered_append, rendered_ofText, rendered_ofText]
  exact Dialect.Spells.enclosed spelled

theorem join {separator : String} (joint : Dialect.Joint separator) {α : Type} {items : List α}
    {text : α → Filled} (spelled : ∀ item ∈ items, Spelled dialect (text item)) :
    Spelled dialect (Filled.join separator (items.map text)) := by
  rw [Spelled, rendered_join]
  refine Dialect.Spells.intercalate joint ?_
  rw [List.map_map, List.forall₂_map_left_iff, List.forall₂_map_right_iff, List.forall₂_same]
  exact spelled

end Filled.Spelled

namespace InsertSource

theorem spelled_tuple {row : List Operand} (fair : ∀ operand ∈ row, operand.Fair dialect) :
    Filled.Spelled dialect (tuple row) :=
  (Filled.Spelled.join (by decide) fun operand member => .operand (fair operand member)).enclosed

theorem spelled_select {row : List (String × Operand)}
    (fair : ∀ cell ∈ row, cell.2.Fair dialect) : Filled.Spelled dialect (select dialect row) := by
  refine (Filled.Spelled.join (by decide) fun cell member => ?_).behind (by decide)
  rw [Filled.Spelled, Filled.rendered_append, Filled.rendered_operand, Filled.rendered_ofText]
  have name : dialect.Silent (" AS " ++ dialect.quoted cell.1) :=
    (Dialect.silent_quoted cell.1).prepend (by decide)
  exact Dialect.Spells.append (Dialect.spells_parameter (fair cell member)) name (.inr (by simp))

theorem spelled_written {source : InsertSource}
    (fair : ∀ row ∈ source.operands, ∀ operand ∈ row, operand.Fair dialect) :
    Filled.Spelled dialect (source.written dialect) := by
  cases source with
  | defaults =>
      have inert : Dialect.Inert (defaultRow dialect) := by
        unfold defaultRow
        split <;> decide
      exact .ofSilent inert.silent
  | values rows =>
      exact (Filled.Spelled.join (by decide) fun row member =>
        spelled_tuple (fair row member)).behind (by decide)
  | selects rows =>
      refine Filled.Spelled.join (by decide) fun row member => spelled_select fun cell listed => ?_
      exact fair _ (List.mem_map_of_mem member) _ (List.mem_map_of_mem listed)

end InsertSource

theorem InsertTree.silent_columns (names : List String) :
    dialect.Silent (dialect.columns names) := by
  refine Dialect.Silent.intercalate (by decide) fun text member => ?_
  obtain ⟨name, -, rfl⟩ := List.mem_map.mp member
  exact Dialect.silent_column name

theorem InsertTree.spelled_written {tree : InsertTree} (table : tree.table.Fair dialect)
    (fair : ∀ row ∈ tree.source.operands, ∀ operand ∈ row, operand.Fair dialect) :
    Filled.Spelled dialect (tree.written dialect) := by
  have source := InsertSource.spelled_written fair
  have head : dialect.Silent ("INSERT INTO " ++ dialect.tableRef tree.table ++ " ") :=
    ((Dialect.silent_tableRef table).prepend (by decide)).close (by decide)
  unfold Filled.Spelled written
  by_cases empty : tree.columns = []
  · rw [if_pos empty, List.append_nil, Filled.rendered_append, Filled.rendered_ofText]
    exact Dialect.Spells.append head source (.of_joint (by decide))
  · have list : dialect.Silent ("(" ++ dialect.columns tree.columns ++ ") ") :=
      ((silent_columns tree.columns).prepend (by decide)).close (by decide)
    rw [if_neg empty, List.append_assoc, Filled.rendered_append, Filled.rendered_append,
      Filled.rendered_ofText, Filled.rendered_ofText]
    exact Dialect.Spells.append head (Dialect.Spells.append list source (.of_joint (by decide)))
      (.of_joint (by decide))

/-- The values of a statement are put into its markers, each in its place in the tree. -/
theorem InsertTree.fill_statement {tree : InsertTree} (table : tree.table.Fair dialect)
    (fair : ∀ row ∈ tree.source.operands, ∀ operand ∈ row, operand.Fair dialect) :
    dialect.fill (tree.statement dialect).sql (tree.statement dialect).bindings =
      some (tree.written dialect) :=
  (tree.spelled_written table fair).fill_eq_some_iff.mpr rfl

end Spelling

end SqlToolkit
