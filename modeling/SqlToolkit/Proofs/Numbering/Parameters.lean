import SqlToolkit.Proofs.Numbering.Changes
/-!
The parameters of numbered statements. They are as many as the places of the roll, and a statement
is sent with one value for each of them exactly if the roll has no spare values.
-/

namespace SqlToolkit

/-- The quotes of the numbered text are closed, and it mentions these entries with their places
numbered from one on. -/
structure Numbered (sql : String) (mentioned : List (Entry Unit)) : Prop where
  closed : (Vendor.postgres.behind .between (numberMarkers sql).toList).isOpen = false
  entries : entries (numberMarkers sql) = Entry.number 1 mentioned

/-- The parameters of the numbered text are `$1` and so on, one for each value, in this order. -/
def Addresses (sql : String) (values : List Value) : Prop :=
  (entries (numberMarkers sql)).filterMap Entry.marker? =
    (List.range' 1 values.length).map parameterText

theorem Has.numbered {sql : String} {mentioned : List (Entry Unit)} (has : Has sql mentioned) :
    Numbered sql mentioned := by
  obtain ⟨trees, reads, rfl⟩ := has
  exact ⟨reads.numberMarkers.1, entries_numberMarkers reads⟩

/-- Every value has its parameter unless there are more values than places. -/
theorem Numbered.addresses_iff {sql : String} {mentioned : List (Entry Unit)} {values : List Value}
    {spare : Nat} (numbered : Numbered sql mentioned)
    (sent : values.length = Entry.places mentioned + spare) :
    Addresses sql values ↔ spare = 0 := by
  rw [Addresses, numbered.entries, Entry.markers_number, sent]
  constructor
  · intro same
    have lengths := congrArg List.length same
    simp only [List.length_map, List.length_range'] at lengths
    change Entry.places mentioned = _ at lengths
    omega
  · rintro rfl
    rfl

/-! The values that are sent with changes -/

namespace Entry

variable {tablePrefix : String}

theorem places_ofAssignment (entry : String × Operand) :
    places (ofAssignment tablePrefix entry) = entry.2.bindings.length := by
  obtain ⟨column, operand⟩ := entry
  cases operand with
  | bound value =>
      rw [ofAssignment, places_append, places_ofColumn]
      rfl
  | verbatim sql =>
      rw [ofAssignment, places_append, places_ofColumn]
      rfl

theorem places_assignments (record : Record) :
    places (record.entries.flatMap (ofAssignment tablePrefix)) = record.bindings.length := by
  simp only [places_flatMap, places_ofAssignment, Record.bindings, Record.operands,
    List.length_flatMap, List.map_map, Function.comp_def]

theorem places_operands (record : Record) :
    places (record.operands.flatMap ofOperand) = record.bindings.length := by
  simp [places_flatMap, Record.bindings, List.length_flatMap]

end Entry

namespace Enrolled

variable {tablePrefix : String} {exact : Prop} {builder : Builder} {roll : Roll}

theorem places_target : Entry.places (roll.target tablePrefix) = 0 := by
  simp [Roll.target, Entry.places_flatMap]

theorem places_joined (enrolled : Enrolled tablePrefix exact builder roll) (holds : exact) :
    builder.bindings.join.length + builder.bindings.filter.length =
      Entry.places (roll.joined tablePrefix) + roll.spareWheres := by
  have counts := enrolled.counts holds
  have tables : Entry.places
      (roll.joins.flatMap fun join => Entry.ofTable tablePrefix join.table) = 0 := by
    simp [Entry.places_flatMap]
  rw [Roll.joined, Entry.places_append, Entry.places_append, tables, counts.join, counts.filter]
  omega

theorem length_updateBindings (enrolled : Enrolled tablePrefix exact builder roll) (holds : exact)
    (record : Record) :
    ((counted tablePrefix).updateBindings builder.query builder.bindings record).length =
      Entry.places (roll.update tablePrefix record) + roll.spareWheres := by
  have joined := enrolled.places_joined holds
  simp only [Dialect.updateBindings, List.length_append, Roll.update, Entry.places_append,
    places_target, Entry.places_assignments]
  omega

theorem length_deleteBindings (enrolled : Enrolled tablePrefix exact builder roll)
    (holds : exact) :
    ((counted tablePrefix).deleteBindings builder.query builder.bindings).length =
      Entry.places (roll.delete tablePrefix) + roll.spareWheres := by
  have joined := enrolled.places_joined holds
  simp [Dialect.deleteBindings, Roll.delete, places_target, joined]

end Enrolled

theorem Roll.places_insert (tablePrefix : String) (roll : Roll) (records : List Record) :
    (records.flatMap Record.bindings).length =
      Entry.places (roll.insert tablePrefix records) := by
  have columns : Entry.places (records.head?.toList.flatMap fun record =>
      record.columns.flatMap fun column => Entry.ofColumn tablePrefix (.named column)) = 0 := by
    simp [Entry.places_flatMap]
  have values : Entry.places (records.flatMap fun record =>
      record.operands.flatMap Entry.ofOperand) = (records.flatMap Record.bindings).length := by
    rw [Entry.places_flatMap, List.length_flatMap]
    simp only [Entry.places_operands]
  rw [Roll.insert, Entry.places_append, Entry.places_append, Enrolled.places_target, columns,
    values]
  omega

/-! What is assigned -/

namespace Record

variable {record : Record} {entry : String × Operand}

theorem mem_insert {column : String} {operand : Operand}
    (member : entry ∈ (record.insert column operand).entries) :
    entry = (column, operand) ∨ entry ∈ record.entries := by
  obtain ⟨entries⟩ := record
  change entry ∈ insertEntry column operand entries at member
  induction entries with
  | nil => exact .inl (List.mem_singleton.mp member)
  | cons first rest ih =>
      rw [insertEntry] at member
      split at member
      · rename_i same
        rw [same] at member
        exact (List.mem_cons.mp member).imp_right (List.mem_cons_of_mem _)
      · rcases List.mem_cons.mp member with rfl | member
        · exact .inr List.mem_cons_self
        · exact (ih member).imp_right (List.mem_cons_of_mem _)

theorem mem_merge {other : Record} (member : entry ∈ (record.merge other).entries) :
    entry ∈ record.entries ∨ entry ∈ other.entries := by
  obtain ⟨entries⟩ := other
  unfold merge at member
  induction entries generalizing record with
  | nil => exact .inl member
  | cons first rest ih =>
      rcases ih member with among | listed
      · rcases mem_insert among with rfl | before
        · exact .inr List.mem_cons_self
        · exact .inl before
      · exact .inr (List.mem_cons_of_mem _ listed)

end Record

/-- A sum of a column and an amount goes together with values for other columns. -/
theorem isAssigned_adjust {tablePrefix column sign : String} (listed : sign ∈ ["+", "-"])
    (amount : Int) {extra : Record} (bound : ∀ entry ∈ extra.entries, entry.2.IsBound) :
    let sum := (counted tablePrefix).column column ++ " " ++ sign ++ " " ++ toString amount
    ∀ entry ∈ ((Record.empty.insert column (.verbatim sum)).merge extra).entries,
      IsAssigned tablePrefix entry := by
  intro sum entry member
  rcases Record.mem_merge member with own | other
  · rcases Record.mem_insert own with rfl | none
    · exact ⟨sign, listed, amount, rfl⟩
    · cases none
  · obtain ⟨name, operand⟩ := entry
    cases operand with
    | bound value => trivial
    | verbatim sql => exact (bound _ other).elim

/-! Whole statements -/

theorem Enrolled.of_free {tablePrefix : String} {steps : List Step} (free : FreeSteps .all steps)
    (accepted : (({ dialect := counted tablePrefix } : Builder).run steps).fault = none) :
    Enrolled tablePrefix (UntouchedSteps tablePrefix steps)
      (({ dialect := counted tablePrefix } : Builder).run steps) (Roll.run tablePrefix {} steps) :=
  (Enrolled.empty none).run steps free id accepted

/-- The select statement of an accepted chain, and how many values are sent with it. -/
theorem statement_numbered {tablePrefix : String} {steps : List Step} (free : FreeSteps .all steps)
    (accepted : (({ dialect := counted tablePrefix } : Builder).run steps).fault = none) :
    let builder := ({ dialect := counted tablePrefix } : Builder).run steps
    let roll := Roll.run tablePrefix {} steps
    ∃ statement, builder.statement = .ok statement ∧
      Numbered statement.sql (roll.select tablePrefix) ∧
      (UntouchedSteps tablePrefix steps →
        statement.bindings.length = Entry.places (roll.select tablePrefix) + roll.spare) := by
  intro builder roll
  have enrolled := Enrolled.of_free free accepted
  have plain := plain_of_free (counted tablePrefix) free
  have reads := Dialect.reads_select builder.query (Query.plain_iff.mpr plain)
  obtain ⟨same, sent⟩ := enrolled.select plain
  refine ⟨⟨(counted tablePrefix).select builder.query, builder.bindings.flatten⟩, ?_,
    (Has.of_reads reads same).numbered, sent⟩
  rw [Builder.statement, Builder.sql, Builder.sound, accepted, enrolled.speaks]
  rfl

/-- Numbering the markers of a text changes nothing else. The numbered statement of an accepted
chain without fragments mentions the names of its roll as they are and has a parameter for each
place, from one on; a value is sent for each parameter exactly if no value is spare. -/
theorem numbered_exactly_iff (tablePrefix : String) {steps : List Step}
    (free : FreeSteps .all steps)
    (accepted : (({ dialect := counted tablePrefix } : Builder).run steps).fault = none) :
    let builder := ({ dialect := counted tablePrefix } : Builder).run steps
    let roll := Roll.run tablePrefix {} steps
    (∀ text : String, let pattern := (counted tablePrefix).pieces none text.toList
      pattern.written (fun _ => "?") = text ∧
        pattern.written parameterText = numberMarkers text) ∧
    (∃ statement, builder.statement = .ok statement ∧
      Numbered statement.sql (roll.select tablePrefix) ∧
      (UntouchedSteps tablePrefix steps →
        (Addresses statement.sql statement.bindings ↔ roll.spare = 0))) ∧
    (∀ record sql, (∀ entry ∈ record.entries, IsAssigned tablePrefix entry) →
      (counted tablePrefix).update builder.query record = .ok sql →
      Numbered sql (roll.update tablePrefix record) ∧
      (UntouchedSteps tablePrefix steps →
        (Addresses sql
          ((counted tablePrefix).updateBindings builder.query builder.bindings record) ↔
          roll.spareWheres = 0))) ∧
    (∀ sql, (counted tablePrefix).delete builder.query = .ok sql →
      Numbered sql (roll.delete tablePrefix) ∧
      (UntouchedSteps tablePrefix steps →
        (Addresses sql ((counted tablePrefix).deleteBindings builder.query builder.bindings) ↔
          roll.spareWheres = 0))) ∧
    (∀ records sql, (∀ record ∈ records, ∀ entry ∈ record.entries, entry.2.IsBound) →
      (counted tablePrefix).insert builder.query records = .ok sql →
      Numbered sql (roll.insert tablePrefix records) ∧
        Addresses sql (records.flatMap Record.bindings)) ∧
    (∀ record key sql, (∀ entry ∈ record.entries, entry.2.IsBound) →
      (counted tablePrefix).insertReturning builder.query record key = .ok sql →
      Numbered sql (roll.insertReturning tablePrefix record key) ∧
        Addresses sql record.bindings) := by
  intro builder roll
  have enrolled : Enrolled tablePrefix (UntouchedSteps tablePrefix steps) builder roll :=
    .of_free free accepted
  have plain : builder.query.PlainParts (counted tablePrefix) .all :=
    plain_of_free (counted tablePrefix) free
  refine ⟨numberMarkers_exact, ?select, ?update, ?delete, ?insert, ?insertReturning⟩
  case select =>
    obtain ⟨statement, made, numbered, sent⟩ := statement_numbered free accepted
    exact ⟨statement, made, numbered, fun holds => numbered.addresses_iff (sent holds)⟩
  case update =>
    intro record sql assigned compiled
    have numbered := (Dialect.has_update enrolled plain assigned compiled).numbered
    exact ⟨numbered, fun holds =>
      numbered.addresses_iff (enrolled.length_updateBindings holds record)⟩
  case delete =>
    intro sql compiled
    have numbered := (Dialect.has_delete enrolled plain compiled).numbered
    exact ⟨numbered, fun holds => numbered.addresses_iff (enrolled.length_deleteBindings holds)⟩
  case insert =>
    intro records sql bound compiled
    have numbered := (Dialect.has_insert enrolled plain bound compiled).numbered
    exact ⟨numbered, (numbered.addresses_iff (Roll.places_insert tablePrefix roll records)).mpr rfl⟩
  case insertReturning =>
    intro record key sql bound compiled
    have numbered := (Dialect.has_insertReturning enrolled plain bound compiled).numbered
    have sent : record.bindings.length =
        Entry.places (roll.insertReturning tablePrefix record key) + 0 := by
      have row := Roll.places_insert tablePrefix roll [record]
      rw [List.flatMap_singleton] at row
      rw [row, Roll.insertReturning, Entry.places_append, Entry.places_ofColumn]
      rfl
    exact ⟨numbered, (numbered.addresses_iff sent).mpr rfl⟩

/-- A select list with a value of its own, and names with question marks and quotes in them. -/
def questionedSteps : List Step :=
  [.table (.named "users"),
    .selectQuery [.table (.named "votes"), .select [.named "n?"],
      .whereCompare .and (.named "it's") "=" (.bound (.text "a"))] "n",
    .whereCompare .and (.named "who\x22?") ">" (.bound (.integer 1))]

theorem questioned_names_numbered :
    let builder := ({ dialect := counted "app_" } : Builder).run questionedSteps
    ∃ statement, builder.statement = .ok statement ∧
      entries (numberMarkers statement.sql) =
        [.name "n?", .name "app_votes", .name "it's", .parameter "$1", .name "n",
          .name "app_users", .name "who\x22?", .parameter "$2"] ∧
      Addresses statement.sql statement.bindings := by
  obtain ⟨-, ⟨statement, made, numbered, whole⟩, -⟩ := @numbered_exactly_iff "app_" questionedSteps
    (by simp [questionedSteps, FreeSteps, Step.Free, Identifier.Within, Identifier.IsNamed,
      Operand.IsBound, Vocabulary.all]) rfl
  have untouched : UntouchedSteps "app_" questionedSteps := by
    simp [questionedSteps, UntouchedSteps, Step.Untouched]
  exact ⟨statement, made, numbered.entries, (whole untouched).mpr rfl⟩

/-- The value of a column that is replaced is still sent, and no parameter is left for it. -/
theorem replaced_column_keeps_value :
    let steps : List Step := [.table (.named "users"),
      .selectQuery [.table (.named "votes"), .select [.named "n"],
        .whereCompare .and (.named "x") "=" (.bound (.integer 1))] "n",
      .select [.named "id"]]
    FreeSteps .all steps ∧ UntouchedSteps "" steps ∧
      ∃ statement, (({ dialect := counted "" } : Builder).run steps).statement = .ok statement ∧
        statement.bindings.length = 1 ∧
        entries (numberMarkers statement.sql) = [.name "id", .name "users"] ∧
        ¬ Addresses statement.sql statement.bindings := by
  intro steps
  have free : FreeSteps .all steps := by
    simp [steps, FreeSteps, Step.Free, Identifier.Within, Identifier.IsNamed, Operand.IsBound,
      Vocabulary.all]
  have untouched : UntouchedSteps "" steps := by
    simp [steps, UntouchedSteps, Step.Untouched]
  obtain ⟨statement, made, numbered, sent⟩ := @statement_numbered "" steps free rfl
  have spare : ¬ (1 = 0) := by decide
  exact ⟨free, untouched, statement, made, sent untouched, numbered.entries,
    mt (numbered.addresses_iff (sent untouched)).mp spare⟩

end SqlToolkit
