import SqlToolkit.Migration.History
import SqlToolkit.Proofs.Chains.Refusals
import SqlToolkit.Proofs.Transactions.Recording
/-!
The statements of a history of migrations: the texts that it sends, and what it makes of the rows
that come back.
-/

namespace SqlToolkit

open Number

/-- What a history asks its table. -/
inductive HistoryQuery where
  | names
  | all
  | batch (number : Int)
  | highest
  deriving DecidableEq, Repr

/-- What a history does to its table. -/
inductive HistoryChange where
  | log (migration : String) (batch : Int)
  | delete (migration : String)
  deriving DecidableEq, Repr

def HistoryQuery.statement (dialect : Dialect) (table : String) : HistoryQuery → Statement
  | names =>
      ⟨joinParts ["SELECT " ++ dialect.column "migration", "FROM " ++ dialect.table table,
        "ORDER BY " ++ dialect.column "migration" ++ " ASC"], []⟩
  | all =>
      ⟨joinParts ["SELECT *", "FROM " ++ dialect.table table,
        "ORDER BY " ++ dialect.column "migration" ++ " DESC"], []⟩
  | batch number =>
      ⟨joinParts ["SELECT *", "FROM " ++ dialect.table table,
        "WHERE " ++ dialect.column "batch" ++ " = " ++ dialect.marker.text,
        "ORDER BY " ++ dialect.column "migration" ++ " DESC"], [.integer number]⟩
  | highest =>
      ⟨joinParts ["SELECT MAX(" ++ dialect.column "batch" ++ ") AS aggregate",
        "FROM " ++ dialect.table table], []⟩

def HistoryChange.statement (dialect : Dialect) (table : String) : HistoryChange → Statement
  | log migration batch =>
      ⟨"INSERT INTO " ++ dialect.table table ++ " (" ++ dialect.columns ["batch", "migration"] ++
        ") VALUES (" ++ dialect.marker.text ++ ", " ++ dialect.marker.text ++ ")",
        [.integer batch, .text migration]⟩
  | delete migration =>
      ⟨joinParts ["DELETE FROM " ++ dialect.table table,
        "WHERE " ++ dialect.column "migration" ++ " = " ++ dialect.marker.text], [.text migration]⟩

/-! Selects from one table -/

/-- A query of one table without joins, groups, unions and limits. -/
def Query.plain (columns : List Identifier) (table : String) (wheres : List Clause)
    (orders : List Order) (aggregate : Option Aggregate) : Query where
  columns := columns
  table := some (.named table)
  wheres := wheres
  window := { orders }
  aggregate := aggregate

theorem joinParts_blank (first second : String) (rest : List String) :
    joinParts (first :: second :: "" :: rest) = joinParts (first :: second :: rest) := by
  simp [joinParts, List.filter_cons]

theorem select_plain (dialect : Dialect) (columns : List Identifier) (table : String)
    (wheres : List Clause) (orders : List Order) (aggregate : Option Aggregate) :
    dialect.select (.plain columns table wheres orders aggregate) =
      joinParts [dialect.projection false columns aggregate, "FROM " ++ dialect.table table,
        dialect.whereClause wheres, dialect.orderClause orders] := by
  simp only [Query.plain, Dialect.select, Dialect.united, Dialect.branches, Dialect.locked,
    Dialect.joins, Dialect.groupClause, Dialect.fromClause, Dialect.tableRef, Dialect.windowClauses,
    Dialect.clauses, headed, Dialect.whereClause]
  simp [joinParts, String.intercalate, Dialect.limitClause, Dialect.offsetClause, List.filter_cons]

namespace History

section Statements

variable (dialect : Dialect) (table : String)

def builder : Builder :=
  ({ dialect : Builder }).table (.named table)

theorem names_statement :
    (((builder dialect table).orderBy (.named "migration") .ascending).select
      [.named "migration"]).statement = .ok (HistoryQuery.names.statement dialect table) := by
  let orders : List Order := [.column (.named "migration") .ascending]
  have text : dialect.select (.plain [.named "migration"] table [] orders none) =
      (HistoryQuery.names.statement dialect table).sql := by
    simp [orders, select_plain, Dialect.projection, Dialect.selectList, Dialect.columnRefs,
      Dialect.columnRef, Dialect.whereClause, Dialect.clauses, headed, joinParts_blank,
      Dialect.orderClause, Dialect.order, Direction.text, HistoryQuery.statement,
      String.append_assoc]
  have made : (((builder dialect table).orderBy (.named "migration") .ascending).select
      [.named "migration"]).statement =
        .ok ⟨dialect.select (.plain [.named "migration"] table [] orders none), []⟩ := rfl
  rw [made, text]
  rfl

theorem all_statement :
    ((builder dialect table).orderBy (.named "migration") .descending).statement =
      .ok (HistoryQuery.all.statement dialect table) := by
  let orders : List Order := [.column (.named "migration") .descending]
  have text : dialect.select (.plain [] table [] orders none) =
      (HistoryQuery.all.statement dialect table).sql := by
    simp [orders, select_plain, Dialect.projection, Dialect.selectList, Dialect.columnRef,
      Dialect.whereClause, Dialect.clauses, headed, joinParts_blank, Dialect.orderClause,
      Dialect.order, Direction.text, HistoryQuery.statement, String.append_assoc]
  have made : ((builder dialect table).orderBy (.named "migration") .descending).statement =
      .ok ⟨dialect.select (.plain [] table [] orders none), []⟩ := rfl
  rw [made, text]
  rfl

theorem batch_statement (number : Int) :
    (((builder dialect table).whereCompare .and (.named "batch") "="
      (.bound (.integer number))).orderBy (.named "migration") .descending).statement =
      .ok ((HistoryQuery.batch number).statement dialect table) := by
  let wheres : List Clause := [⟨.and, .compare (.named "batch") "=" (.bound (.integer number))⟩]
  let orders : List Order := [.column (.named "migration") .descending]
  have text : dialect.select (.plain [] table wheres orders none) =
      ((HistoryQuery.batch number).statement dialect table).sql := by
    simp [wheres, orders, select_plain, Dialect.projection, Dialect.selectList, Dialect.columnRef,
      Dialect.predicate, Dialect.whereClause, Dialect.clauses, headed, chain, Dialect.parameter,
      Dialect.orderClause, Dialect.order, Direction.text, HistoryQuery.statement,
      String.append_assoc]
  have chosen : (builder dialect table).whereCompare .and (.named "batch") "="
      (.bound (.integer number)) = ((builder dialect table).bind .filter [.integer number]).addWhere
        .and (.compare (.named "batch") "=" (.bound (.integer number))) :=
    if_pos dialect.vendor.knowsOperator_equal
  have made : ((((builder dialect table).bind .filter [.integer number]).addWhere
        .and (.compare (.named "batch") "=" (.bound (.integer number)))).orderBy
          (.named "migration") .descending).statement =
      .ok ⟨dialect.select (.plain [] table wheres orders none), [.integer number]⟩ := rfl
  rw [chosen, made, text]
  rfl

theorem highest_statement :
    ((builder dialect table).aggregate "max" ["batch"]).statement =
      .ok (HistoryQuery.highest.statement dialect table) := by
  let aggregate : Option Aggregate := some ⟨"max", [.named "batch"]⟩
  have text : dialect.select (.plain [] table [] [] aggregate) =
      (HistoryQuery.highest.statement dialect table).sql := by
    have filled : dialect.column "batch" ≠ "" := by
      have plain : dialect.column "batch" = Text.enclosed dialect.vendor.quote "batch" := rfl
      simp [plain, Text.enclosed]
    have spelled : Text.asciiUpper "max" = "MAX" := by decide
    simp [aggregate, select_plain, Dialect.projection, Dialect.aggregate, Dialect.columnRefs,
      Dialect.columnRef, Dialect.whereClause, Dialect.clauses, headed, joinParts_blank,
      Dialect.orderClause, HistoryQuery.statement, String.append_assoc, spelled, filled]
  have made : ((builder dialect table).aggregate "max" ["batch"]).statement =
      .ok ⟨dialect.select (.plain [] table [] [] aggregate), []⟩ := rfl
  rw [made, text]
  rfl

theorem delete_program (migration : String) :
    ((builder dialect table).whereCompare .and (.named "migration") "="
      (.bound (.text migration))).delete =
      (Program.execute ((HistoryChange.delete migration).statement dialect table) >>= fun receipt =>
        pure receipt.affected) := by
  let wheres : List Clause := [⟨.and, .compare (.named "migration") "=" (.bound (.text migration))⟩]
  let bindings : Bindings := { filter := [.text migration] }
  have chosen : (builder dialect table).whereCompare .and (.named "migration") "="
      (.bound (.text migration)) = ⟨dialect, .plain [] table wheres [] none, bindings, none⟩ :=
    if_pos dialect.vendor.knowsOperator_equal
  have clause : dialect.whereClause wheres =
      "WHERE " ++ dialect.column "migration" ++ " = " ++ dialect.marker.text := by
    simp [wheres, Dialect.whereClause, Dialect.clauses, headed, chain, Dialect.predicate,
      Dialect.columnRef, Dialect.parameter, String.append_assoc]
  have text : dialect.delete (.plain [] table wheres [] none) =
      .ok (joinParts ["DELETE FROM " ++ dialect.table table, dialect.whereClause wheres]) := by
    obtain ⟨vendor, tablePrefix, marker⟩ := dialect
    cases vendor with
    | sqlite => rfl
    | mysql => exact congrArg Except.ok ((joinParts_blank _ _ _).trans (joinParts_blank _ _ _))
    | postgres => rfl
  have bound : dialect.deleteBindings (.plain [] table wheres [] none) bindings =
      [.text migration] := by
    simp [bindings, Dialect.deleteBindings]
  rw [chosen, Builder.delete]
  simp only [text, bound, clause]
  rfl

theorem log_program (migration : String) (batch : Int) :
    (builder dialect table).insert
        (.ofList [("migration", .bound (.text migration)), ("batch", .bound (.integer batch))]) =
      (Program.execute ((HistoryChange.log migration batch).statement dialect table) >>= fun _ =>
        pure ()) := by
  let record : Record :=
    ⟨[("batch", .bound (.integer batch)), ("migration", .bound (.text migration))]⟩
  have sorted : (Record.ofList [("migration", .bound (.text migration)),
      ("batch", .bound (.integer batch))]).sorted = record := by
    simp [record, Record.ofList, Record.sorted, Record.insert, Record.insertEntry, Record.empty,
      List.mergeSort]
  have rows : dialect.insertRows [record] =
      "VALUES " ++ ("(" ++ dialect.marker.text ++ ", " ++ dialect.marker.text ++ ")") := by
    simp [Dialect.insertRows, Dialect.valuesTuple, Dialect.parameters, Dialect.parameter,
      Record.operands, record, String.append_assoc]
  have made : dialect.insert (builder dialect table).query [record] =
      .ok ("INSERT INTO " ++ dialect.table table ++ " (" ++ dialect.columns ["batch", "migration"] ++
        ") " ++ dialect.insertRows [record]) := rfl
  have text (front : String) : front ++ ") " ++ dialect.insertRows [record] =
      front ++ ") VALUES (" ++ dialect.marker.text ++ ", " ++ dialect.marker.text ++ ")" := by
    have joined : ") VALUES (" = ") " ++ ("VALUES " ++ "(") := rfl
    rw [rows, joined]
    simp only [String.append_assoc]
  rw [text] at made
  simp only [Builder.insert, Builder.insertMany, List.map_cons, List.map_nil, sorted]
  rw [show (builder dialect table).dialect = dialect from rfl, made]
  rfl

end Statements

/-! What is asked, and what is made of it -/

variable {σ α β : Type} [Database σ]

def read (history : History) (query : HistoryQuery) : Managing σ (List Row) :=
  Connections.use history.connection do
    Link.run (.fetch false (query.statement (← Link.current).dialect history.table))

def write (history : History) (change : HistoryChange) : Managing σ Receipt :=
  Connections.use history.connection do
    Link.run (.execute (change.statement (← Link.current).dialect history.table))

omit [Database σ] in
theorem runOn_map (name : String) (connection : Connection) (action : Action σ α) (f : α → β) :
    Connections.runOn name connection (action >>= fun value => pure (f value)) =
      Connections.runOn name connection action >>= fun value => pure (f value) := by
  funext connections
  cases ended : action ⟨connection, connections.database⟩ <;>
    simp [Connections.runOn, bind, EStateM.bind, ended, pure, EStateM.pure]

theorem use_map (name : Option String) (action : Action σ α) (f : α → β) :
    Connections.use name (action >>= fun value => pure (f value)) =
      Connections.use name action >>= fun value => pure (f value) := by
  simp only [Connections.use, runOn_map, bind_assoc]

/-- A program that sends one request for the table, and the rest that is made of the answer. -/
theorem perform_table {history : History} {program : Builder → Program α} {connection : Connection}
    {request : Request} {f : request.Answer → α}
    (sends : program (builder connection.dialect history.table) =
      (Program.ask request >>= fun answer => pure (f answer))) :
    Link.perform (σ := σ) (program (connection.query.table (.named history.table))) =
      Link.run request >>= fun answer => pure (f answer) := by
  have same : connection.query.table (.named history.table) =
    builder connection.dialect history.table := rfl
  rw [same, sends]
  rfl

theorem onTable_of_fetch (history : History) (program : Builder → Program α) (query : HistoryQuery)
    (f : List Row → α)
    (sends : ∀ dialect, program (builder dialect history.table) =
      (Program.fetch (query.statement dialect history.table) >>= fun rows => pure (f rows))) :
    history.onTable program =
      (history.read (σ := σ) query >>= fun rows => pure (f rows)) := by
  have performed := fun connection : Connection => @perform_table σ _ _ history program connection
    (.fetch false (query.statement connection.dialect history.table)) f (sends connection.dialect)
  simp only [read, onTable, performed, ← use_map, bind_assoc]

theorem onTable_of_execute (history : History) (program : Builder → Program α)
    (change : HistoryChange) (f : Receipt → α)
    (sends : ∀ dialect, program (builder dialect history.table) =
      (Program.execute (change.statement dialect history.table) >>= fun receipt =>
        pure (f receipt))) :
    history.onTable program =
      (history.write (σ := σ) change >>= fun receipt => pure (f receipt)) := by
  have performed := fun connection : Connection => @perform_table σ _ _ history program connection
    (.execute (change.statement connection.dialect history.table)) f (sends connection.dialect)
  simp only [write, onTable, performed, ← use_map, bind_assoc]

theorem get_of_statement {builder : Builder} {statement : Statement}
    (made : builder.statement = .ok statement) : builder.get = Program.fetch statement := by
  rw [Builder.get, made]
  rfl

theorem fetch_rows (statement : Statement) :
    Program.fetch statement = (Program.fetch statement >>= fun rows => pure rows) :=
  rfl

variable (history : History)

theorem ran_eq : history.ran (σ := σ) = (history.read .names >>= fun rows =>
    pure ((rows.filterMap Row.first?).filterMap Value.text?)) := by
  have sent := history.onTable_of_fetch (σ := σ)
    (fun table => (table.orderBy (.named "migration") .ascending).values (.named "migration"))
    .names (fun rows => rows.filterMap Row.first?) fun dialect => by
      rw [Builder.values, get_of_statement (names_statement _ _)]
  simp only [ran, sent, bind_assoc, pure_bind]

theorem entries_eq : history.entries (σ := σ) = (history.read .all >>= fun rows =>
    pure (rows.filterMap HistoryEntry.ofRow?)) := by
  have sent := history.onTable_of_fetch (σ := σ)
    (fun table => (table.orderBy (.named "migration") .descending).get)
    .all (fun rows => rows) fun dialect => by
      rw [get_of_statement (all_statement _ _)]
      exact fetch_rows _
  simp only [entries, sent, bind_assoc, pure_bind]

theorem lastBatch_eq : history.lastBatch (σ := σ) = (history.read .highest >>= fun rows =>
    pure ((((rows.head?.bind Row.first?).filter fun value => !value.isNull).bind
      Value.integer?).getD 0)) := by
  have sent := history.onTable_of_fetch (σ := σ) (fun table => table.maximum "batch") .highest
    (fun rows => (rows.head?.bind Row.first?).filter fun value => !value.isNull)
    fun dialect => by
      rw [Builder.maximum, Builder.aggregateValue, get_of_statement (highest_statement _ _)]
  simp only [lastBatch, sent, bind_assoc, pure_bind]

theorem lastEntries_eq : history.lastEntries (σ := σ) = (do
    let batch ← history.lastBatch
    let rows ← history.read (.batch batch)
    pure (rows.filterMap HistoryEntry.ofRow?)) := by
  have sent (batch : Int) := history.onTable_of_fetch (σ := σ)
    (fun table => ((table.whereCompare .and (.named "batch") "="
      (.bound (.integer batch))).orderBy (.named "migration") .descending).get)
    (.batch batch) (fun rows => rows) fun dialect => by
      rw [get_of_statement (batch_statement _ _ batch)]
      exact fetch_rows _
  simp only [lastEntries, sent, bind_assoc, pure_bind]

theorem log_eq (migration : String) (batch : Int) : history.log (σ := σ) migration batch =
    (history.write (.log migration batch) >>= fun _ => pure ()) :=
  history.onTable_of_execute _ _ _ fun dialect => log_program dialect history.table migration batch

theorem delete_eq (migration : String) : history.delete (σ := σ) migration =
    (history.write (.delete migration) >>= fun _ => pure ()) := by
  have sent := history.onTable_of_execute (σ := σ)
    (fun table => (table.whereCompare .and (.named "migration") "="
      (.bound (.text migration))).delete)
    (.delete migration) Receipt.affected fun dialect => delete_program dialect history.table migration
  simp only [delete, sent, bind_assoc, pure_bind]

end History

end SqlToolkit
