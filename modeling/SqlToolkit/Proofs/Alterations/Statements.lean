import SqlToolkit.Proofs.Alterations.Declarations
/-!
Each kind of statement is read as what it does.
-/

namespace SqlToolkit

namespace Reading

variable {target copy : List Char}

theorem alteration_alterTable {change : List Char} {read : Alteration}
    (found : (addColumn change <|> dropColumn change <|> renameColumn change) = some read) :
    alteration target copy ("ALTER TABLE ".toList ++ (target ++ ([' '] ++ change))) = some read := by
  have altered : alterTable target ("ALTER TABLE ".toList ++ (target ++ ([' '] ++ change))) =
      some read := by
    simp only [alterTable, strip_append, Option.bind_eq_bind, Option.bind_some]
    exact found
  have other : setting ("ALTER TABLE ".toList ++ (target ++ ([' '] ++ change))) = none := rfl
  rw [alteration, altered, other]
  rfl

theorem alteration_addColumn {name declaration : String} (legible : Legible declaration) :
    alteration target copy ("ALTER TABLE ".toList ++ (target ++ ([' '] ++
      ("ADD COLUMN ".toList ++ (written name ++ declaration.toList))))) =
        some (.addColumn ⟨name, declaration⟩) := by
  refine alteration_alterTable ?_
  have added : addColumn ("ADD COLUMN ".toList ++ (written name ++ declaration.toList)) =
      some (.addColumn ⟨name, declaration⟩) := by
    simp only [addColumn, strip_append, Option.bind_eq_bind, Option.bind_some,
      name_written legible.behind, String.ofList_toList]
  rw [added]
  rfl

theorem alteration_renameColumn (column name : String) :
    alteration target copy ("ALTER TABLE ".toList ++ (target ++ ([' '] ++
      ("RENAME COLUMN ".toList ++ (written column ++ (" TO ".toList ++ written name)))))) =
        some (.renameColumn column name) := by
  refine alteration_alterTable ?_
  have last : Reading.name (written name) = some (name, []) := by
    have nothing : Behind [] := by decide
    have read := name_written nothing name
    rwa [List.append_nil] at read
  have behind : Behind (" TO ".toList ++ written name) :=
    Behind.append (by decide) (by decide) (written name)
  have renamed : renameColumn
      ("RENAME COLUMN ".toList ++ (written column ++ (" TO ".toList ++ written name))) =
        some (.renameColumn column name) := by
    simp only [renameColumn, strip_append, Option.bind_eq_bind, Option.bind_some,
      name_written behind, last]
  have notAdded : addColumn
      ("RENAME COLUMN ".toList ++ (written column ++ (" TO ".toList ++ written name))) = none := rfl
  have notDropped : dropColumn
      ("RENAME COLUMN ".toList ++ (written column ++ (" TO ".toList ++ written name))) = none := rfl
  rw [notAdded, notDropped, renamed]
  rfl

/-! Rebuilding -/

/-- A list of names, as it is written. -/
def list (names : List String) : List Char :=
  [',', ' '].intercalate (names.map written)

theorem names_list {text : List Char} (behind : Behind text) {names : List String}
    (filled : names ≠ []) : Reading.names (list names ++ text) = some (names, text) := by
  cases names with
  | nil => exact absurd rfl filled
  | cons first more => exact names_written behind first more

theorem alteration_copyAway {columns : List String} (filled : columns ≠ []) :
    alteration target copy ("CREATE TEMPORARY TABLE ".toList ++ (copy ++ (" AS SELECT ".toList ++
      (list columns ++ (" FROM ".toList ++ target))))) = some (.copyAway columns) := by
  have behind : Behind (" FROM ".toList ++ target) :=
    Behind.append (by decide) (by decide) target
  have copied : copyAway target copy ("CREATE TEMPORARY TABLE ".toList ++ (copy ++
      (" AS SELECT ".toList ++ (list columns ++ (" FROM ".toList ++ target))))) =
        some (.copyAway columns) := by
    simp only [copyAway, strip_append, Option.bind_eq_bind, Option.bind_some,
      names_list behind filled, if_true]
  rw [alteration, copied]
  rfl

/-- No columns can be copied. -/
theorem alteration_copyAway_nil :
    alteration target copy ("CREATE TEMPORARY TABLE ".toList ++ (copy ++ (" AS SELECT ".toList ++
      (list [] ++ (" FROM ".toList ++ target))))) = none := by
  have copied : copyAway target copy ("CREATE TEMPORARY TABLE ".toList ++ (copy ++
      (" AS SELECT ".toList ++ (list [] ++ (" FROM ".toList ++ target))))) = none := by
    simp only [copyAway, strip_append, Option.bind_eq_bind, Option.bind_some]
    rfl
  rw [alteration, copied]
  rfl

theorem alteration_dropTable :
    alteration target copy ("DROP TABLE ".toList ++ target) = some .dropTable := by
  have dropped : dropTable target copy ("DROP TABLE ".toList ++ target) = some .dropTable := by
    simp only [dropTable, strip_append, Option.bind_eq_bind, Option.bind_some, if_true]
  rw [alteration, dropped]
  rfl

theorem alteration_dropCopy (apart : copy ≠ target) :
    alteration target copy ("DROP TABLE ".toList ++ copy) = some .dropCopy := by
  have dropped : dropTable target copy ("DROP TABLE ".toList ++ copy) = some .dropCopy := by
    simp only [dropTable, strip_append, Option.bind_eq_bind, Option.bind_some, if_neg apart, if_true]
  rw [alteration, dropped]
  rfl

theorem alteration_copyBack {columns : List String} (filled : columns ≠ []) :
    alteration target copy ("INSERT INTO ".toList ++ (target ++ (" (".toList ++ (list columns ++
      (") SELECT ".toList ++ (list columns ++ (" FROM ".toList ++ copy))))))) =
        some (.copyBack columns columns) := by
  have behind : Behind (" FROM ".toList ++ copy) := Behind.append (by decide) (by decide) copy
  have between : Behind (") SELECT ".toList ++ (list columns ++ (" FROM ".toList ++ copy))) :=
    Behind.append (by decide) (by decide) _
  have copied : copyBack target copy ("INSERT INTO ".toList ++ (target ++ (" (".toList ++
      (list columns ++ (") SELECT ".toList ++ (list columns ++ (" FROM ".toList ++ copy))))))) =
        some (.copyBack columns columns) := by
    simp only [copyBack, strip_append, Option.bind_eq_bind, Option.bind_some,
      names_list between filled, names_list behind filled, if_true]
  rw [alteration, copied]
  rfl

/-! Creating a table -/

def spelled (column : StoredColumn) : List Char :=
  written column.name ++ column.declaration.toList

def spelledKey (key : List String) : List (List Char) :=
  if key = [] then [] else ["PRIMARY KEY (".toList ++ (list key ++ [')'])]

theorem table_spelled {columns : List StoredColumn}
    (legible : ∀ column ∈ columns, Legible column.declaration) (key : List String) :
    table (columns.map spelled ++ spelledKey key) = some ⟨columns, key⟩ := by
  induction columns with
  | nil =>
      unfold spelledKey
      split
      · rename_i none
        rw [none]
        rfl
      · rename_i filled
        have behind : Behind [')'] := by decide
        have unnamed : name ("PRIMARY KEY (".toList ++ (list key ++ [')'])) = none := rfl
        simp only [List.map_nil, List.nil_append, table, Option.bind_eq_bind, Option.bind_some,
          unnamed, strip_append, names_list behind filled, List.append_nil]
  | cons column columns ih =>
      have rest := ih fun other member => legible other (List.mem_cons_of_mem column member)
      have mine := legible column List.mem_cons_self
      simp only [List.map_cons, List.cons_append, table, rest, Option.bind_eq_bind,
        Option.bind_some, spelled, name_written mine.behind, String.ofList_toList]

theorem closed_spelled {column : StoredColumn} (legible : Legible column.declaration) :
    Closed (spelled column) :=
  Closed.append (closed_enclosed (.inr rfl) column.name.toList) legible.closed

theorem behind_list (depth : Nat) (names : List String) :
    (Spot.mk none (depth + 1)).behind (list names) = some ⟨none, depth + 1⟩ := by
  have one (name : String) :
      (Spot.mk none (depth + 1)).behind (written name) = some ⟨none, depth + 1⟩ :=
    behind_enclosed (.inr rfl) (depth + 1) name.toList
  induction names with
  | nil => rfl
  | cons first more ih =>
      cases more with
      | nil =>
          rw [list, List.map_singleton, List.intercalate_singleton]
          exact one first
      | cons second more =>
          have between : (Spot.mk none (depth + 1)).behind [',', ' '] = some ⟨none, depth + 1⟩ := by
            simp [Spot.behind, Spot.next]
          have split : list (first :: second :: more) =
              written first ++ ([',', ' '] ++ list (second :: more)) := by
            rw [list, List.map_cons, List.map_cons, List.intercalate_cons_cons, List.append_assoc]
            rfl
          rw [split, Spot.behind_append, one, Option.bind_some, Spot.behind_append, between,
            Option.bind_some, ih]

theorem closed_spelledKey (key : List String) : ∀ text ∈ spelledKey key, Closed text := by
  intro text member
  unfold spelledKey at member
  split at member
  · cases member
  · obtain rfl := List.mem_singleton.mp member
    have opens : ({} : Spot).behind "PRIMARY KEY (".toList = some ⟨none, 1⟩ := by decide
    have closes : (Spot.mk none 1).behind [')'] = some {} := by decide
    unfold Closed
    rw [Spot.behind_append, opens, Option.bind_some, Spot.behind_append, behind_list,
      Option.bind_some, closes]

theorem withoutBlank_spelled (stored : StoredTable) :
    ∀ text ∈ stored.columns.map spelled ++ spelledKey stored.key, withoutBlank text = text := by
  intro text member
  rcases List.mem_append.mp member with column | key
  · obtain ⟨column, -, rfl⟩ := List.mem_map.mp column
    rfl
  · unfold spelledKey at key
    split at key
    · cases key
    · obtain rfl := List.mem_singleton.mp key
      rfl

theorem alteration_createTable {stored : StoredTable} (filled : stored.columns ≠ [])
    (legible : ∀ column ∈ stored.columns, Legible column.declaration) :
    alteration target copy ("CREATE TABLE ".toList ++ (target ++ (" (".toList ++
      ([',', ' '].intercalate (stored.columns.map spelled ++ spelledKey stored.key) ++ [')'])))) =
        some (.createTable stored) := by
  have closed : ∀ text ∈ stored.columns.map spelled ++ spelledKey stored.key, Closed text := by
    intro text member
    rcases List.mem_append.mp member with spelling | key
    · obtain ⟨column, there, rfl⟩ := List.mem_map.mp spelling
      exact closed_spelled (legible column there)
    · exact closed_spelledKey stored.key text key
  have unblanked := withoutBlank_spelled stored
  have read := table_spelled legible stored.key
  have some : stored.columns.map spelled ++ spelledKey stored.key ≠ [] := by simp [filled]
  cases parts : stored.columns.map spelled ++ spelledKey stored.key with
  | nil => exact absurd parts some
  | cons first more =>
      rw [parts] at closed unblanked read
      have same : (first :: more.map (' ' :: ·)).map withoutBlank = first :: more := by
        rw [List.map_cons, unblanked first List.mem_cons_self, List.map_map]
        congr 1
        exact List.map_id'' (fun _ => rfl) more
      have created : createTable target ("CREATE TABLE ".toList ++ (target ++ (" (".toList ++
          ([',', ' '].intercalate (first :: more) ++ [')'])))) = Option.some (.createTable stored) := by
        simp only [createTable, strip_append, Option.bind_eq_bind, Option.bind_some,
          declarations_list first more closed, same, read]
      rw [alteration, created]
      rfl

end Reading

end SqlToolkit
