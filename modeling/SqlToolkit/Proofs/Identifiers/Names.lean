import SqlToolkit.Proofs.Identifiers.References
import SqlToolkit.Proofs.Reading.Predicates
import Mathlib.Data.List.DropRight
/-!
The reference that a name stands for, told by the places of its dots and of its ` as `. Whatever
characters a name is made of, the text that a dialect writes for it is the reference of that name
and is read back as it.
-/

namespace SqlToolkit

/-! Where a name is split -/

/-- The text begins with ` as `, in any letters. -/
def startsAlias (text : List Char) : Bool :=
  (text.take 4).map Char.toLower = " as ".toList

/-- The number of characters before the first ` as `. -/
def aliasPlace (text : List Char) : Option Nat :=
  text.tails.findIdx? startsAlias

def beforeAlias (text : List Char) (place : Nat) : String :=
  String.ofList (Text.trim (text.take place))

def behindAlias (text : List Char) (place : Nat) : String :=
  String.ofList (Text.trim (text.drop (place + " as ".length)))

/-- The text before the last dot. -/
def beforeDot (text : List Char) : List Char :=
  (text.rdropWhile (· ≠ '.')).dropLast

/-- The text behind the last dot. -/
def behindDot (text : List Char) : List Char :=
  text.rtakeWhile (· ≠ '.')

theorem startsAlias_iff {text : List Char} :
    startsAlias text = true ↔
      ∃ a s tail, text = ' ' :: a :: s :: ' ' :: tail ∧ a.toLower = 'a' ∧ s.toLower = 's' := by
  rcases text with _ | ⟨blank, _ | ⟨a, _ | ⟨s, _ | ⟨close, tail⟩⟩⟩⟩ <;>
    simp [startsAlias, Dialect.toLower_eq_blank_iff]
  grind

theorem aliasPlace_cons (c : Char) (rest : List Char) :
    aliasPlace (c :: rest) =
      if startsAlias (c :: rest) then some 0 else (aliasPlace rest).map (· + 1) := by
  rw [aliasPlace, List.tails_cons, List.findIdx?_cons]
  rfl

theorem splitAliasChars_cons {c : Char} {rest : List Char}
    (other : ¬ startsAlias (c :: rest) = true) :
    splitAliasChars (c :: rest) =
      (splitAliasChars rest).map fun (base, name) => (c :: base, name) := by
  rw [startsAlias_iff] at other
  conv_lhs => unfold splitAliasChars
  split
  · split
    · rename_i letters
      exact absurd ⟨_, _, _, rfl, letters⟩ other
    · rfl
  · rfl

theorem splitAliasChars_eq (text : List Char) :
    splitAliasChars text =
      (aliasPlace text).map fun place => (text.take place, text.drop (place + " as ".length)) := by
  induction text with
  | nil => rfl
  | cons c rest ih =>
      rw [aliasPlace_cons]
      by_cases starts : startsAlias (c :: rest) = true
      · obtain ⟨a, s, tail, same, letters⟩ := startsAlias_iff.mp starts
        rw [if_pos starts, same, splitAliasChars, if_pos letters]
        rfl
      · rw [if_neg starts, splitAliasChars_cons starts, ih, Option.map_map, Option.map_map]
        rfl

theorem splitAlias_eq (name : String) :
    splitAlias name =
      (aliasPlace name.toList).map fun place =>
        (beforeAlias name.toList place, behindAlias name.toList place) := by
  rw [splitAlias, splitAliasChars_eq, Option.map_map]
  rfl

theorem behindDot_undotted (text : List Char) : '.' ∉ behindDot text := by
  intro member
  have other := List.mem_rtakeWhile_imp member
  simp at other

theorem beforeDot_append_behindDot {text : List Char} (dotted : '.' ∈ text) :
    beforeDot text ++ '.' :: behindDot text = text := by
  have nonempty : text.rdropWhile (· ≠ '.') ≠ [] := by
    intro empty
    have other := List.rdropWhile_eq_nil_iff.mp empty '.' dotted
    simp at other
  have last : (text.rdropWhile (· ≠ '.')).getLast nonempty = '.' := by
    simpa using List.rdropWhile_last_not _ text nonempty
  have whole := List.dropLast_append_getLast nonempty
  rw [last] at whole
  calc beforeDot text ++ '.' :: behindDot text
      = (beforeDot text ++ ['.']) ++ behindDot text := by simp
    _ = text.rdropWhile (· ≠ '.') ++ behindDot text := by rw [beforeDot, whole]
    _ = text := List.rdropWhile_append_rtakeWhile

theorem splitSchema_dotted {name : String} (dotted : '.' ∈ name.toList) :
    splitSchema name =
      (some (String.ofList (beforeDot name.toList)), String.ofList (behindDot name.toList)) := by
  have parts : segmentsChars name.toList =
      (beforeDot name.toList).splitOn '.' ++ [behindDot name.toList] := by
    rw [Dialect.segmentsChars_eq_splitOn]
    conv_lhs => rw [← beforeDot_append_behindDot dotted, List.splitOn_append_cons_self,
      List.splitOn_eq_singleton (behindDot_undotted _)]
  rw [splitSchema, parts]
  simp

theorem splitSchema_undotted {name : String} (undotted : '.' ∉ name.toList) :
    splitSchema name = (none, name) := by
  rw [splitSchema, Dialect.segmentsChars_eq_splitOn, List.splitOn_eq_singleton undotted]
  rfl

/-! What a name stands for -/

namespace Dialect

variable {dialect : Dialect}

/-- The texts between the dots of a column name; of several the first is a table. -/
def columnIdentifiers (dialect : Dialect) (name : String) : List String :=
  dialect.prefixed ((name.toList.splitOn '.').map String.ofList)

/-- The table and the schema before the last dot, which is one identifier with its dots. -/
def tableIdentifiers (dialect : Dialect) (name : String) : List String :=
  if '.' ∈ name.toList then
    [String.ofList (beforeDot name.toList),
      dialect.tablePrefix ++ String.ofList (behindDot name.toList)]
  else [dialect.tablePrefix ++ name]

def columnReference (dialect : Dialect) (name : String) : Reference :=
  match aliasPlace name.toList with
  | some place =>
      ⟨dialect.columnIdentifiers (beforeAlias name.toList place),
        some (behindAlias name.toList place)⟩
  | none => ⟨dialect.columnIdentifiers name, none⟩

def tableReference (dialect : Dialect) (name : String) : Reference :=
  match aliasPlace name.toList with
  | some place =>
      ⟨dialect.tableIdentifiers (beforeAlias name.toList place),
        some (dialect.tablePrefix ++ behindAlias name.toList place)⟩
  | none => ⟨dialect.tableIdentifiers name, none⟩

theorem columnPath_eq_path (name : String) :
    dialect.columnPath name = dialect.path (dialect.columnIdentifiers name) := by
  unfold columnPath columnIdentifiers path segments
  rw [segmentsChars_eq_splitOn]
  cases parts : (name.toList.splitOn '.').map String.ofList with
  | nil => exact absurd (List.map_eq_nil_iff.mp parts) (List.splitOn_ne_nil '.' _)
  | cons table rest => cases rest <;> simp [prefixed]

theorem tablePath_eq_path (name : String) :
    dialect.tablePath name = dialect.path (dialect.tableIdentifiers name) := by
  unfold tablePath tableIdentifiers path
  split_ifs with dotted
  · rw [splitSchema_dotted dotted]
    simp [String.intercalate_cons_cons]
  · rw [splitSchema_undotted dotted]
    simp

theorem column_eq_reference (name : String) :
    dialect.column name = dialect.reference (dialect.columnReference name) := by
  unfold column columnReference reference
  rw [splitAlias_eq]
  cases aliasPlace name.toList <;> simp [columnPath_eq_path, String.append_assoc]

theorem table_eq_reference (name : String) :
    dialect.table name = dialect.reference (dialect.tableReference name) := by
  unfold table tableReference reference
  rw [splitAlias_eq]
  cases aliasPlace name.toList <;> simp [tablePath_eq_path, String.append_assoc]

theorem columnReference_path_ne_nil (name : String) :
    (dialect.columnReference name).path ≠ [] := by
  have named : ∀ name, dialect.columnIdentifiers name ≠ [] := by
    intro name
    rw [columnIdentifiers, ← segmentsChars_eq_splitOn]
    exact prefixed_ne_nil name
  unfold columnReference
  split <;> exact named _

theorem tableReference_path_ne_nil (name : String) :
    (dialect.tableReference name).path ≠ [] := by
  have named : ∀ name, dialect.tableIdentifiers name ≠ [] := by
    intro name
    unfold tableIdentifiers
    split_ifs <;> simp
  unfold tableReference
  split <;> exact named _

/-- A name is written so that its reference, and the whole of it, is read back, and so that nothing
of it stands outside of quotes but the stars among its identifiers. -/
theorem names_read_back (dialect : Dialect) (name : String) :
    Reference.read dialect.vendor.quote (dialect.column name).toList =
        some (dialect.columnReference name) ∧
      Reference.outside dialect.vendor.quote false (dialect.column name).toList =
        (dialect.columnReference name).bare ∧
      Reference.read dialect.vendor.quote (dialect.table name).toList =
        some (dialect.tableReference name) ∧
      Reference.outside dialect.vendor.quote false (dialect.table name).toList =
        (dialect.tableReference name).bare := by
  rw [column_eq_reference, table_eq_reference]
  exact ⟨Reference.read_reference _ (columnReference_path_ne_nil name),
    Reference.outside_reference _,
    Reference.read_reference _ (tableReference_path_ne_nil name),
    Reference.outside_reference _⟩

example :
    Dialect.columnReference ⟨.mysql, "p_", .question⟩ "users.* As  u.*" =
      ⟨["p_users", "*"], some "u.*"⟩ := by
  decide

/-- The schema of a table is one identifier and not the list of its segments. -/
theorem dotted_schema_is_one_identifier :
    let dialect : Dialect := ⟨.sqlite, "p_", .question⟩
    aliasPlace "a.b.c".toList = none ∧
      Reference.read dialect.vendor.quote (dialect.table "a.b.c").toList =
        some ⟨["a.b", "p_c"], none⟩ ∧
      Reference.read dialect.vendor.quote (dialect.table "a.b.c").toList ≠
        some ⟨["a", "b", "p_c"], none⟩ := by
  intro dialect
  rw [table_eq_reference, Reference.read_reference _ (tableReference_path_ne_nil _)]
  decide

end Dialect

end SqlToolkit
