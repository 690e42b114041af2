import SqlToolkit.Proofs.Changes.Basic
import SqlToolkit.Proofs.Numbering.Enrollment
/-!
The entries of the statements that change rows, and the values that are sent with them.
-/

namespace SqlToolkit

/-- The text reads as trees with these entries. -/
def Has (text : String) (entries : List (Entry Unit)) : Prop :=
  ∃ trees, Vendor.postgres.Reads text trees ∧ entriesOf trees = entries

namespace Has

variable {left middle right : String} {first second : List (Entry Unit)}

theorem of_reads {trees : List Tree} (reads : Vendor.postgres.Reads left trees)
    (same : entriesOf trees = first) : Has left first :=
  ⟨trees, reads, same⟩

theorem of_empty (has : Has "" first) : first = [] := by
  obtain ⟨trees, reads, rfl⟩ := has
  rw [entriesOf, reads.of_empty]
  rfl

/-- What two texts have together that are parted by a blank, a bracket or punctuation. -/
theorem append (has : Has left first) (next : Has right second) (parted : Parted left right) :
    Has (left ++ right) (first ++ second) := by
  obtain ⟨trees, reads, rfl⟩ := has
  obtain ⟨others, readsOthers, rfl⟩ := next
  exact ⟨trees ++ others, reads.append readsOthers parted, entriesOf_append trees others⟩

theorem behind (front : Has left []) (ends : endsBroken left = true)
    (has : Has right second) : Has (left ++ right) second :=
  front.append has (.inl ends)

theorem join (has : Has left first) {trees : List Tree}
    (seam : Vendor.postgres.Seam middle (flatAll trees)) (silent : entriesOf trees = [])
    (next : Has right second) : Has (left ++ middle ++ right) (first ++ second) := by
  obtain ⟨before, reads, rfl⟩ := has
  obtain ⟨after, readsAfter, rfl⟩ := next
  exact ⟨before ++ trees ++ after, Vendor.Reads.join reads seam readsAfter, by simp [silent]⟩

theorem blank (has : Has left first) (next : Has right second) :
    Has (left ++ " " ++ right) (first ++ second) := by
  have seam : Vendor.postgres.Seam " " (flatAll []) := Vendor.Lexes.blank
  exact has.join seam rfl next

/-- A text, the words in front of an opening bracket, and what the bracket encloses. -/
theorem enclose (has : Has left first) {trees : List Tree}
    (opens : Vendor.postgres.Seam middle (flatAll trees ++ [.opening]))
    (silent : entriesOf trees = []) (inner : Has right second) :
    Has (left ++ middle ++ right ++ ")") (first ++ second) := by
  obtain ⟨before, reads, rfl⟩ := has
  obtain ⟨within, readsWithin, rfl⟩ := inner
  exact ⟨before ++ trees ++ [.parens within], Vendor.Reads.enclose reads opens readsWithin, by
    simp [silent]⟩

theorem parens (inner : Has right second) : Has ("(" ++ right ++ ")") second := by
  obtain ⟨trees, reads, rfl⟩ := inner
  exact ⟨[.parens trees], reads.parens, entriesOf_parens trees⟩

/-! Lists of texts -/

variable {texts : List String} {each : List (List (Entry Unit))}

theorem reads_each (has : List.Forall₂ Has texts each) :
    ∃ trees : List (List Tree), List.Forall₂ Vendor.postgres.Reads texts trees ∧
      trees.map entriesOf = each := by
  induction has with
  | nil => exact ⟨[], .nil, rfl⟩
  | cons head tail ih =>
      obtain ⟨trees, reads, rfl⟩ := head
      obtain ⟨others, readsOthers, rfl⟩ := ih
      exact ⟨trees :: others, .cons reads readsOthers, rfl⟩

theorem intercalate {separator : String} {between : List Tree}
    (seam : Vendor.postgres.Seam separator (flatAll between)) (silent : entriesOf between = [])
    (has : List.Forall₂ Has texts each) : Has (separator.intercalate texts) each.flatten := by
  obtain ⟨trees, reads, rfl⟩ := reads_each has
  refine ⟨between.intercalate trees, Vendor.Reads.intercalate seam reads, ?_⟩
  rw [entriesOf_intercalate silent, List.flatMap_def]

theorem joinParts (has : List.Forall₂ Has texts each) :
    Has (SqlToolkit.joinParts texts) each.flatten := by
  obtain ⟨trees, reads, rfl⟩ := reads_each has
  refine ⟨trees.flatten, Vendor.Reads.joinParts reads, ?_⟩
  rw [entriesOf_flatten, List.flatMap_def]

theorem list {α : Type} {text : α → String} {entries : α → List (Entry Unit)} {items : List α}
    (has : ∀ item ∈ items, Has (text item) (entries item)) :
    Has (", ".intercalate (items.map text)) (items.flatMap entries) := by
  rw [List.flatMap_def]
  exact intercalate (@Dialect.seam_comma ⟨.postgres, "", .question⟩) rfl (Dialect.forall₂_map has)

end Has

/-! Entries of changes -/

/-- A column is set to a value, or to the sum of itself and an amount. -/
def IsAssigned (tablePrefix : String) : String × Operand → Prop
  | (_, .bound _) => True
  | (column, .verbatim sql) => ∃ sign ∈ ["+", "-"], ∃ amount : Int,
      sql = (counted tablePrefix).column column ++ " " ++ sign ++ " " ++ toString amount

/-- A sum mentions the column once more. -/
def Entry.ofAssignment (tablePrefix : String) : String × Operand → List (Entry Unit)
  | (column, .bound _) => ofColumn tablePrefix (.named column) ++ [.parameter ()]
  | (column, .verbatim _) =>
      ofColumn tablePrefix (.named column) ++ ofColumn tablePrefix (.named column)

namespace Roll

variable (tablePrefix : String) (roll : Roll)

def target : List (Entry Unit) :=
  roll.table.toList.flatMap (Entry.ofTable tablePrefix)

/-- The tables that are joined, behind them the conditions of all joins, and the predicates. -/
def joined : List (Entry Unit) :=
  (roll.joins.flatMap fun join => Entry.ofTable tablePrefix join.table) ++
    roll.joins.flatMap (Entry.ofConditions tablePrefix) ++ roll.wheres

def update (record : Record) : List (Entry Unit) :=
  roll.target tablePrefix ++ record.entries.flatMap (Entry.ofAssignment tablePrefix) ++
    roll.joined tablePrefix

def delete : List (Entry Unit) :=
  roll.target tablePrefix ++ roll.joined tablePrefix

/-- The columns are those of the first record. -/
def insert (records : List Record) : List (Entry Unit) :=
  roll.target tablePrefix ++
    (records.head?.toList.flatMap fun record => record.columns.flatMap fun column =>
      Entry.ofColumn tablePrefix (.named column)) ++
    records.flatMap fun record => record.operands.flatMap Entry.ofOperand

def insertReturning (record : Record) (key : String) : List (Entry Unit) :=
  roll.insert tablePrefix [record] ++ Entry.ofColumn tablePrefix (.named key)

end Roll

/-! The parts of the statements -/

namespace Dialect

variable {tablePrefix : String} {words : Vocabulary}

theorem has_tableRef {table : Identifier} (named : table.IsNamed) :
    Has ((counted tablePrefix).tableRef table) (Entry.ofTable tablePrefix table) :=
  .of_reads (@reads_tableRef (counted tablePrefix) _ named) (entriesOf_tableRef named)

theorem has_column (name : String) :
    Has ((counted tablePrefix).column name) (Entry.ofColumn tablePrefix (.named name)) :=
  .of_reads (@reads_column (counted tablePrefix) name) (entriesOf_column name)

theorem has_parameter {operand : Operand} (bound : operand.IsBound) :
    Has ((counted tablePrefix).parameter operand) (Entry.ofOperand operand) :=
  .of_reads (@reads_parameter (counted tablePrefix) _ bound)
    (@entriesOf_operand tablePrefix _ bound)

theorem seam_equals : Vendor.postgres.Seam " = " (flatAll [signTree "="]) := by
  decide

theorem has_amount (amount : Int) : Has (toString amount) [] := by
  have number : ∀ n : Nat, Vendor.postgres.Reads (toString n) [wordTree (toString n)] :=
    @reads_number (counted "")
  cases amount with
  | ofNat n => exact ⟨[wordTree (toString n)], number n, entriesOf_number n⟩
  | negSucc n =>
      have minus : Vendor.postgres.Reads "-" [signTree "-"] := by decide
      have begins : ∀ c ∈ (toString (n + 1)).toList.head?,
          Vendor.postgres.extend (Vendor.postgres.behind .between "-".toList) c = none := by
        intro c member
        have listed : c ∈ Nat.toDigits 10 (n + 1) := by
          simpa using List.mem_of_mem_head? member
        have digit : c.isDigit = true :=
          Nat.isDigit_of_mem_toDigits (by decide) (by decide) listed
        have letter : isLetter c = true := by simp [isLetter, Char.isAlphanum, digit]
        exact Vendor.extend_letter letter rfl (by rintro _ ⟨⟩)
      refine ⟨[signTree "-", wordTree (toString (n + 1))], ?_, ?_⟩
      · exact minus.append_of_fresh (number (n + 1)) begins
      · rw [entriesOf_cons, entriesOf_number]
        decide

/-- A column with an amount added to it or taken away. -/
theorem has_sum (column : String) {sign : String} (listed : sign ∈ ["+", "-"]) (amount : Int) :
    Has ((counted tablePrefix).column column ++ " " ++ sign ++ " " ++ toString amount)
      (Entry.ofColumn tablePrefix (.named column)) := by
  have sum : Has sign [] := by
    rcases List.mem_cons.mp listed with rfl | listed
    · exact ⟨[signTree "+"], by decide, by decide⟩
    · rw [List.mem_singleton.mp listed]
      exact ⟨[signTree "-"], by decide, by decide⟩
  simpa using ((has_column column).blank sum).blank (has_amount amount)

theorem has_assignments {record : Record}
    (assigned : ∀ entry ∈ record.entries, IsAssigned tablePrefix entry) :
    Has ((counted tablePrefix).assignments record)
      (record.entries.flatMap (Entry.ofAssignment tablePrefix)) :=
  Has.list fun entry member => by
    obtain ⟨column, operand⟩ := entry
    have set := assigned _ member
    cases operand with
    | bound value =>
        exact (has_column column).join seam_equals (by decide)
          (@has_parameter tablePrefix (.bound value) trivial)
    | verbatim sql =>
        obtain ⟨sign, listed, amount, rfl⟩ := set
        exact (has_column column).join seam_equals (by decide) (has_sum column listed amount)

theorem has_insertRows {records : List Record}
    (bound : ∀ record ∈ records, ∀ entry ∈ record.entries, entry.2.IsBound) :
    Has ((counted tablePrefix).insertRows records)
      (records.flatMap fun record => record.operands.flatMap Entry.ofOperand) := by
  have rows : Has (", ".intercalate (records.map (counted tablePrefix).valuesTuple))
      (records.flatMap fun record => record.operands.flatMap Entry.ofOperand) :=
    Has.list fun record member => by
      refine Has.parens (Has.list fun operand listed => ?_)
      obtain ⟨entry, among, rfl⟩ := List.mem_map.mp listed
      exact has_parameter (bound record member entry among)
  have values : Has "VALUES " [] := ⟨[wordTree "VALUES"], by decide, by decide⟩
  exact values.behind (by decide) rows

theorem has_chain {wheres : List Clause}
    (plain : Clause.Plain (counted tablePrefix) words wheres) :
    Has (chain ((counted tablePrefix).clauses wheres)) (Entry.ofClauses tablePrefix wheres) :=
  .of_reads (@reads_chain (counted tablePrefix) _ _ (reads_clauses wheres plain))
    (entriesOf_chain _)

theorem has_whereClause {wheres : List Clause}
    (plain : Clause.Plain (counted tablePrefix) words wheres) :
    Has ((counted tablePrefix).whereClause wheres) (Entry.ofClauses tablePrefix wheres) := by
  have word : Vendor.postgres.Reads ("WHERE" ++ " ") [wordTree "WHERE"] := by decide
  exact .of_reads (@reads_headed (counted tablePrefix) _ _ _ word (reads_clauses wheres plain))
    (entriesOf_headed (by decide) _)

section Joins

variable {joins : List Join}
  (plain : ∀ join ∈ joins, join.IsPlain ∧ join.IsKnown (counted tablePrefix).vendor)

include plain

theorem has_joinedTables :
    Has ((counted tablePrefix).joinedTables joins)
      (joins.flatMap fun join => Entry.ofTable tablePrefix join.table) :=
  Has.list fun join member => has_tableRef (plain join member).1.table

theorem has_conditions :
    Has (" AND ".intercalate
        ((joins.filter fun join => join.conditions ≠ []).map (counted tablePrefix).joinConditions))
      (joins.flatMap (Entry.ofConditions tablePrefix)) := by
  have kept : (joins.filter fun join => join.conditions ≠ []).flatMap
      (Entry.ofConditions tablePrefix) = joins.flatMap (Entry.ofConditions tablePrefix) := by
    induction joins with
    | nil => rfl
    | cons first rest ih =>
        have others := ih (List.forall_mem_cons.mp plain).2
        by_cases bare : first.conditions = []
        · rw [List.filter_cons_of_neg (by simpa using bare), others, List.flatMap_cons,
            Entry.ofConditions, bare]
          rfl
        · rw [List.filter_cons_of_pos (by simpa using bare), List.flatMap_cons, others,
            List.flatMap_cons]
  rw [← kept, List.flatMap_def]
  refine Has.intercalate (@seam_and (counted tablePrefix)) (by decide)
    (forall₂_map fun join member => ?_)
  obtain ⟨free, known⟩ := plain join (List.mem_of_mem_filter member)
  exact .of_reads (@reads_joinConditions (counted tablePrefix) _ free known)
    (entriesOf_conditions free known)

theorem has_joinedWhere {wheres : List Clause}
    (filters : Clause.Plain (counted tablePrefix) words wheres) :
    Has ((counted tablePrefix).joinedWhere joins wheres)
      (joins.flatMap (Entry.ofConditions tablePrefix) ++ Entry.ofClauses tablePrefix wheres) := by
  have conditions := has_conditions plain
  have word : Has "WHERE " [] := ⟨[wordTree "WHERE"], by decide, by decide⟩
  unfold joinedWhere
  dsimp only
  split
  · rename_i none
    rw [none] at conditions
    rw [conditions.of_empty, List.nil_append]
    exact has_whereClause filters
  · split
    · rename_i empty
      rw [List.isEmpty_iff.mp empty]
      simpa [Entry.ofClauses, clauseTrees] using word.behind (by decide) conditions
    · have group : Vendor.postgres.Seam " AND (" (flatAll [wordTree "AND"] ++ [.opening]) := by
        decide
      exact (word.behind (by decide) conditions).enclose group (by decide) (has_chain filters)

end Joins

/-! Updates and deletes -/

section Changes

variable {exact : Prop} {builder : Builder} {roll : Roll} {sql : String}
  (enrolled : Enrolled tablePrefix exact builder roll)
  (plain : builder.query.PlainParts (counted tablePrefix) words)

include enrolled plain

theorem has_target {table : Identifier} (named : builder.query.table = some table) :
    Has ((counted tablePrefix).tableRef table) (roll.target tablePrefix) := by
  have has := @has_tableRef tablePrefix _ (plain.table table named)
  rw [Roll.target, ← enrolled.table, named]
  simpa using has

theorem has_update {record : Record}
    (assigned : ∀ entry ∈ record.entries, IsAssigned tablePrefix entry)
    (compiled : (counted tablePrefix).update builder.query record = .ok sql) :
    Has sql (roll.update tablePrefix record) := by
  obtain ⟨table, named, -, shape⟩ := update_eq_ok_iff.mp compiled
  have wheres := has_whereClause plain.wheres
  have target := has_target enrolled plain named
  have update : Has "UPDATE " [] := ⟨[wordTree "UPDATE"], by decide, by decide⟩
  have set : Has "SET " [] := ⟨[wordTree "SET"], by decide, by decide⟩
  have front := (update.behind (by decide) target).blank
    (set.behind (by decide) (@has_assignments tablePrefix _ assigned))
  rw [Roll.update, Roll.joined, ← enrolled.joins, ← enrolled.wheres]
  cases shape with
  | alone _ single =>
      have whole := Has.joinParts (.cons front (.cons wheres .nil))
      rw [single]
      simpa using whole
  | listed _ _ =>
      have from' : Has "FROM " [] := ⟨[wordTree "FROM"], by decide, by decide⟩
      have whole := Has.joinParts (.cons front
        (.cons (from'.behind (by decide) (has_joinedTables plain.joins))
          (.cons (has_joinedWhere plain.joins plain.wheres) .nil)))
      simpa using whole
  | bounded mysql _ | joined mysql _ => cases mysql

theorem has_delete (compiled : (counted tablePrefix).delete builder.query = .ok sql) :
    Has sql (roll.delete tablePrefix) := by
  obtain ⟨table, named, shape⟩ := delete_eq_ok_iff.mp compiled
  have wheres := has_whereClause plain.wheres
  have delete : Has "DELETE FROM " [] :=
    ⟨[wordTree "DELETE", wordTree "FROM"], by decide, by decide⟩
  have front := delete.behind (by decide) (has_target enrolled plain named)
  rw [Roll.delete, Roll.joined, ← enrolled.joins, ← enrolled.wheres]
  cases shape with
  | alone _ single =>
      have whole := Has.joinParts (.cons front (.cons wheres .nil))
      rw [single]
      simpa using whole
  | listed _ _ =>
      have using' : Vendor.postgres.Seam " USING " (flatAll [wordTree "USING"]) := by decide
      have whole := Has.joinParts
        (.cons (front.join using' (by decide) (has_joinedTables plain.joins))
          (.cons (has_joinedWhere plain.joins plain.wheres) .nil))
      simpa using whole
  | bounded mysql _ | joined mysql _ => cases mysql

/-! Inserts -/

theorem has_insert {records : List Record}
    (bound : ∀ record ∈ records, ∀ entry ∈ record.entries, entry.2.IsBound)
    (compiled : (counted tablePrefix).insert builder.query records = .ok sql) :
    Has sql (roll.insert tablePrefix records) := by
  obtain ⟨table, columns, named, shared, rfl⟩ := insert_eq_ok_iff.mp compiled
  obtain ⟨given, same⟩ := sharedColumns_eq_ok_iff.mp shared
  obtain ⟨first, rest, rfl⟩ := List.exists_cons_of_ne_nil given
  obtain rfl := same first List.mem_cons_self
  have rows := @has_insertRows tablePrefix _ bound
  have insert : Has "INSERT INTO " [] :=
    ⟨[wordTree "INSERT", wordTree "INTO"], by decide, by decide⟩
  have front := insert.behind (by decide) (has_target enrolled plain named)
  rw [insertInto]
  split_ifs with none
  · have defaults : Has " DEFAULT VALUES" [] :=
      ⟨[wordTree "DEFAULT", wordTree "VALUES"], by decide, by decide⟩
    have empty : ((first :: rest).flatMap fun record =>
        record.operands.flatMap Entry.ofOperand) = [] := by
      refine List.flatMap_eq_nil_iff.mpr fun record member => ?_
      have bare : record.entries = [] := List.map_eq_nil_iff.mp ((same record member).trans none)
      rw [Record.operands, bare]
      rfl
    have whole := front.append defaults (.inr (by decide))
    rw [Roll.insert, empty, insertDefaults]
    simpa [none] using whole
  · have listed : Has ((counted tablePrefix).columns first.columns)
        (first.columns.flatMap fun column => Entry.ofColumn tablePrefix (.named column)) :=
      Has.list fun column _ => has_column column
    have opens : Vendor.postgres.Seam " (" (flatAll [] ++ [.opening]) := by decide
    have whole := (front.enclose opens rfl listed).blank rows
    have closes : ")" ++ (" " ++ (counted tablePrefix).insertRows (first :: rest)) =
        ") " ++ (counted tablePrefix).insertRows (first :: rest) := by
      rw [← String.append_assoc]
      rfl
    simpa [Roll.insert, String.append_assoc, closes] using whole

theorem has_insertReturning {record : Record} {key : String}
    (bound : ∀ entry ∈ record.entries, entry.2.IsBound)
    (compiled : (counted tablePrefix).insertReturning builder.query record key = .ok sql) :
    Has sql (roll.insertReturning tablePrefix record key) := by
  simp only [Dialect.insertReturning, bind, Except.bind, pure, Except.pure] at compiled
  cases insert : (counted tablePrefix).insert builder.query [record] with
  | error fault => simp [insert] at compiled
  | ok text =>
      have records : ∀ other ∈ [record], ∀ entry ∈ other.entries, entry.2.IsBound := by
        simpa using bound
      have seam : Vendor.postgres.Seam " RETURNING " (flatAll [wordTree "RETURNING"]) := by decide
      have whole := (has_insert enrolled plain records insert).join seam (by decide)
        (@has_column tablePrefix key)
      simp only [insert, Vendor.returnsKey, if_true] at compiled
      cases compiled
      exact whole

end Changes

end Dialect

end SqlToolkit
