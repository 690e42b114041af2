import SqlToolkit.Proofs.Histories.Table
import SqlToolkit.Proofs.Routines.Ownership
import SqlToolkit.Proofs.Routines.Writer
/-!
A small database that holds a history and nothing else. It answers the statements of the history,
refuses the statements that it is told to refuse, and accepts all others without an effect.
-/

namespace SqlToolkit

open History

structure Ledger where
  entries : List HistoryEntry := []
  /-- The texts of the statements that are refused. -/
  refused : List String := []

namespace Ledger

def dialect : Dialect :=
  ⟨.sqlite, "", .question⟩

/-- The question that a statement asks, if it is one of the history. -/
def asked? (statement : Statement) : Option HistoryQuery :=
  if statement.sql = "SELECT \"migration\" FROM \"migrations\" ORDER BY \"migration\" ASC" then
    some .names
  else if statement.sql = "SELECT * FROM \"migrations\" ORDER BY \"migration\" DESC" then some .all
  else if statement.sql = "SELECT MAX(\"batch\") AS aggregate FROM \"migrations\"" then some .highest
  else match statement with
    | ⟨"SELECT * FROM \"migrations\" WHERE \"batch\" = ? ORDER BY \"migration\" DESC",
        [.integer number]⟩ => some (.batch number)
    | _ => none

def change? : Statement → Option HistoryChange
  | ⟨"INSERT INTO \"migrations\" (\"batch\", \"migration\") VALUES (?, ?)",
      [.integer batch, .text migration]⟩ => some (.log migration batch)
  | ⟨"DELETE FROM \"migrations\" WHERE \"migration\" = ?", [.text migration]⟩ =>
      some (.delete migration)
  | _ => none

theorem asked?_statement (query : HistoryQuery) :
    asked? (query.statement dialect "migrations") = some query := by
  cases query <;> rfl

theorem change?_statement (change : HistoryChange) :
    change? (change.statement dialect "migrations") = some change := by
  cases change <;> rfl

def rows (entries : List HistoryEntry) : HistoryQuery → List Row
  | .names =>
      (entries.mergeSort fun first second => first.migration ≤ second.migration).map
        HistoryQuery.nameRow
  | .all =>
      (entries.mergeSort fun first second => second.migration ≤ first.migration).map
        HistoryQuery.entryRow
  | .batch number =>
      ((entries.filter fun entry => entry.batch = number).mergeSort fun first second =>
        second.migration ≤ first.migration).map HistoryQuery.entryRow
  | .highest =>
      [⟨["aggregate"], [match (entries.map HistoryEntry.batch).max? with
        | some number => .integer number
        | none => .null]⟩]

theorem answers_rows (entries : List HistoryEntry) (query : HistoryQuery) :
    query.Answers entries (rows entries query) := by
  cases query with
  | names => exact ⟨_, List.mergeSort_perm _ _, ascending_mergeSort HistoryEntry.migration _, rfl⟩
  | all => exact ⟨_, List.mergeSort_perm _ _, descending_mergeSort HistoryEntry.migration _, rfl⟩
  | batch number =>
      exact ⟨_, List.mergeSort_perm _ _, descending_mergeSort HistoryEntry.migration _, rfl⟩
  | highest => rfl

def refusal : String :=
  "disk full"

def answer (request : Request) : EStateM String Ledger request.Answer := fun ledger =>
  if ledger.refused.contains request.statement.sql then .error refusal ledger
  else match request with
    | .fetch _ statement => .ok (((asked? statement).map (rows ledger.entries)).getD []) ledger
    | .execute statement =>
        .ok ⟨1, none⟩ { ledger with
          entries := ((change? statement).map (·.applied ledger.entries)).getD ledger.entries }
    | .unprepared _ => .ok () ledger

instance : Database Ledger where
  connect _ role := pure ⟨0, role.name, none⟩
  answer _ := answer
  control _ _ := pure ()

/-! The one connection to a ledger -/

def config : DatabaseConfig :=
  .single "main" { driver := "sqlite", lostMessages := some [] }

def connection : Connection where
  name := "main"
  config := { driver := "sqlite", name := some "main", lostMessages := some [] }
  vendor := .sqlite
  marker := .question
  write := some ⟨0, "write", none⟩
  read := none
  reconnects := true
  logging := false

/-- The connection before it is opened. -/
def closed (ledger : Ledger) : Connections Ledger :=
  .make config ledger

def opened (ledger : Ledger) : Connections Ledger where
  config := config
  default := "main"
  opened := [("main", ⟨0, connection⟩)]
  count := 1
  database := ledger

/-- The connection holds a ledger with these entries, opened or not. -/
def Holds (refused : List String) (entries : List HistoryEntry) (state : Connections Ledger) :
    Prop :=
  state = closed ⟨entries, refused⟩ ∨ state = opened ⟨entries, refused⟩

variable {refused : List String} {entries : List HistoryEntry} {before after : Connections Ledger}
  {α : Type}

theorem connect_ledger (ledger : Ledger) :
    Connection.connect "main" connection.config ledger = .ok connection ledger :=
  rfl

theorem openNamed_closed (ledger : Ledger) :
    Connections.openNamed "main" (closed ledger) = .ok ⟨0, connection⟩ (opened ledger) := by
  have configured : (closed ledger).config.connection "main" =
      .ok connection.config := rfl
  have kept : (closed ledger).database = ledger := rfl
  simp only [Connections.openNamed, configured, kept, connect_ledger]
  rfl

/-- What is done on the connection and leaves it as it is changes the ledger alone. -/
theorem of_use {action : Action Ledger α} {result : Except Error α}
    (holds : Holds refused entries before)
    (ended : Ends (Connections.use none action) before result after) :
    ∃ final, Ends action ⟨connection, ⟨entries, refused⟩⟩ result final ∧
      (final.connection = connection → after = opened final.database) := by
  have ready : Ends (Connections.runOn "main" connection action) (opened ⟨entries, refused⟩)
      result after := by
    rcases ended.of_bind with ⟨error, failed, rfl⟩ | ⟨kept, middle, answered, rest⟩
    · rcases Connections.of_connection failed with ⟨_, -, same, -⟩ | ⟨absent, opens⟩
      · cases same
      · rcases holds with rfl | rfl
        · rw [Ends, show (closed ⟨entries, refused⟩).resolve none = "main" from rfl,
            openNamed_closed] at opens
          cases opens
        · cases absent
    · rcases Connections.of_connection answered with ⟨_, found, same, rfl⟩ | ⟨absent, opens⟩
      · cases same
        rcases holds with rfl | rfl
        · cases found
        · cases found
          exact rest
      · rcases holds with rfl | rfl
        · rw [Ends, show (closed ⟨entries, refused⟩).resolve none = "main" from rfl,
            openNamed_closed] at opens
          cases opens
          exact rest
        · cases absent
  obtain ⟨final, performed, rfl⟩ := Connections.of_runOn ready
  refine ⟨final, performed, fun same => ?_⟩
  rw [same]
  rfl

def atLevel (level : Nat) : Connection :=
  { connection with level }

variable {level : Nat}

theorem tryRequest_eq (request : Request) (ledger : Ledger) :
    Link.tryRequest request ⟨atLevel level, ledger⟩ =
      onDatabase (answer request) ⟨atLevel level, ledger⟩ := by
  cases request with
  | fetch fromPrimary statement => cases fromPrimary <;> cases level <;> rfl
  | execute statement => rfl
  | unprepared sql => rfl

theorem run_of_persist {request : Request} {ledger final : Ledger}
    {reply : Except Error request.Answer}
    (persisted : Ends (Link.persist (Error.query request.statement) (Link.tryRequest request))
      ⟨atLevel level, ledger⟩ reply ⟨atLevel level, final⟩) :
    Ends (Link.run request) ⟨atLevel level, ledger⟩ reply ⟨atLevel level, final⟩ := by
  have talking : Link.run request ⟨atLevel level, ledger⟩ =
      (Link.persist (Error.query request.statement) (Link.tryRequest request) >>= fun answer =>
        Link.current >>= fun connection =>
          if connection.logging then
            Link.change (·.withLogged request.statement true) >>= fun _ => pure answer
          else pure answer) ⟨atLevel level, ledger⟩ := rfl
  cases reply with
  | ok reply =>
      rw [Ends, talking]
      simp only [bind, EStateM.bind, show _ = _ from persisted]
      rfl
  | error error =>
      rw [Ends, talking]
      simp only [bind, EStateM.bind, show _ = _ from persisted]

/-- A request that is refused leaves the ledger as it is. -/
theorem run_refused {request : Request} {ledger : Ledger}
    (refuses : ledger.refused.contains request.statement.sql = true) :
    Ends (Link.run request) ⟨atLevel level, ledger⟩ (.error (.query request.statement refusal))
      ⟨atLevel level, ledger⟩ := by
  have tried : Link.tryRequest request ⟨atLevel level, ledger⟩ =
      .error refusal ⟨atLevel level, ledger⟩ := by
    have refused : answer request ledger = .error refusal ledger := if_pos refuses
    rw [tryRequest_eq, onDatabase, refused]
  have lasting : (!(atLevel level).mayReconnect refusal) = true := by
    have other : connection.isLost refusal = false := rfl
    rw [Connection.mayReconnect, show (atLevel level).isLost refusal = false from other,
      Bool.and_false]
    rfl
  refine run_of_persist ?_
  simp only [Ends, Link.persist, bind, EStateM.bind, outcome, tried]
  change (if (!(atLevel level).mayReconnect refusal) = true then _ else _ :
    Action Ledger request.Answer) _ = _
  rw [if_pos lasting]
  rfl

theorem run_accepted {request : Request} {ledger final : Ledger} {reply : request.Answer}
    (accepts : answer request ledger = .ok reply final) :
    Ends (Link.run request) ⟨atLevel level, ledger⟩ (.ok reply) ⟨atLevel level, final⟩ := by
  have tried : Link.tryRequest request ⟨atLevel level, ledger⟩ = .ok reply ⟨atLevel level, final⟩ := by
    rw [tryRequest_eq, onDatabase, accepts]
  refine run_of_persist ?_
  simp only [Ends, Link.persist, bind, EStateM.bind, outcome, tried]
  rfl

/-- The statements of the usual history act on a ledger as on a table; those that it is told to
refuse are refused. -/
theorem tabular (refused : List String) :
    ({} : History).Tabular (refused ≠ []) (Holds refused) where
  reads := by
    intro entries query before result after holds ended
    obtain ⟨final, performed, kept⟩ := of_use holds ended
    replace performed : Ends (Link.run (.fetch false (query.statement dialect "migrations")))
      ⟨connection, ⟨entries, refused⟩⟩ result final := Link.of_current performed
    by_cases refuses : refused.contains (query.statement dialect "migrations").sql = true
    · obtain ⟨rfl, rfl⟩ := performed.unique (run_refused refuses)
      rw [kept rfl]
      exact ⟨.inr rfl, .refusal (by rintro rfl; simp at refuses)⟩
    · have accepts : answer (.fetch false (query.statement dialect "migrations"))
          ⟨entries, refused⟩ = .ok (rows entries query) ⟨entries, refused⟩ := by
        refine (if_neg refuses).trans ?_
        simp only [asked?_statement]
        rfl
      obtain ⟨rfl, rfl⟩ := performed.unique (run_accepted accepts)
      rw [kept rfl]
      exact ⟨.inr rfl, .answer (answers_rows entries query)⟩
  writes := by
    intro entries change before result after holds ended
    obtain ⟨final, performed, kept⟩ := of_use holds ended
    replace performed : Ends (Link.run (.execute (change.statement dialect "migrations")))
      ⟨connection, ⟨entries, refused⟩⟩ result final := Link.of_current performed
    by_cases refuses : refused.contains (change.statement dialect "migrations").sql = true
    · obtain ⟨rfl, rfl⟩ := performed.unique (run_refused refuses)
      rw [kept rfl]
      exact .inr ⟨by rintro rfl; simp at refuses, ⟨_, rfl⟩, .inr rfl⟩
    · have accepts : answer (.execute (change.statement dialect "migrations"))
          ⟨entries, refused⟩ = .ok ⟨1, none⟩ ⟨change.applied entries, refused⟩ := by
        refine (if_neg refuses).trans ?_
        simp only [change?_statement]
        rfl
      obtain ⟨rfl, rfl⟩ := performed.unique (run_accepted accepts)
      rw [kept rfl]
      exact .inl ⟨_, rfl, .inr rfl⟩

/-! Migrations that leave the history alone -/

def sending (sql : String) : Action Ledger Unit :=
  Link.run (.execute ⟨sql, []⟩) >>= fun _ => pure ()

def creating : Migration Ledger where
  up := sending "CREATE TABLE a (id INTEGER)"
  down := sending "DROP TABLE a"

def registry : MigrationRegistry Ledger :=
  ⟨[("A", creating)]⟩

/-- The statement is none of the history. -/
theorem sending_spares {sql : String} {ledger : Ledger} {final : Link Ledger}
    {result : Except Error Unit} (other : change? ⟨sql, []⟩ = none)
    (ended : Ends (sending sql) ⟨atLevel level, ledger⟩ result final) :
    final = ⟨atLevel level, ledger⟩ := by
  let request : Request := .execute ⟨sql, []⟩
  by_cases refuses : ledger.refused.contains request.statement.sql = true
  · rcases ended.of_bind with ⟨error, failed, rfl⟩ | ⟨receipt, middle, accepted, rest⟩
    · exact (failed.unique (run_refused refuses)).2
    · cases (accepted.unique (run_refused refuses)).1
  · have accepts : answer (.execute ⟨sql, []⟩) ledger = .ok ⟨1, none⟩ ledger := by
      refine (if_neg refuses).trans ?_
      simp only [other]
      rfl
    rcases ended.of_bind with ⟨error, failed, rfl⟩ | ⟨receipt, middle, accepted, rest⟩
    · cases (failed.unique (run_accepted accepts)).1
    · obtain ⟨-, rfl⟩ := rest.of_pure
      exact (accepted.unique (run_accepted accepts)).2

theorem transaction_spares {sql : String} {ledger : Ledger} {final : Link Ledger}
    {result : Except Error Unit} (other : change? ⟨sql, []⟩ = none)
    (ended : Ends (Link.transaction (sending sql)) ⟨connection, ledger⟩ result final) :
    final = ⟨connection, ledger⟩ := by
  have begins : Ends Link.begin ⟨connection, ledger⟩ (.ok ()) ⟨atLevel 1, ledger⟩ := rfl
  have commits : Ends Link.commit ⟨atLevel 1, ledger⟩ (.ok ()) ⟨connection, ledger⟩ := rfl
  have rolls : Ends Link.rollback ⟨atLevel 1, ledger⟩ (.ok ()) ⟨connection, ledger⟩ := rfl
  rcases ended.of_bind with ⟨error, failed, rfl⟩ | ⟨_, begun, opens, rest⟩
  · cases (failed.unique begins).1
  obtain ⟨-, rfl⟩ := opens.unique begins
  obtain ⟨inner, middle, worked, settles⟩ := rest.of_outcome_bind
  cases inner with
  | ok value =>
      obtain ⟨-, rfl⟩ := settles.of_pure
      rcases worked.of_bind with ⟨error, -, same⟩ | ⟨value, sent, performed, rest⟩
      · cases same
      obtain rfl := sending_spares other performed
      rcases rest.of_bind with ⟨error, -, same⟩ | ⟨_, closed, ends, rest⟩
      · cases same
      obtain ⟨-, rfl⟩ := ends.unique commits
      exact rest.of_pure.2
  | error error =>
      have same : middle = ⟨atLevel 1, ledger⟩ := by
        rcases worked.of_bind with ⟨error, failed, -⟩ | ⟨value, sent, performed, rest⟩
        · exact sending_spares other failed
        obtain rfl := sending_spares other performed
        rcases rest.of_bind with ⟨error, failed, -⟩ | ⟨_, closed, -, rest⟩
        · cases (failed.unique commits).1
        · cases rest.of_pure.1
      subst same
      obtain ⟨reply, closed, rolled, thrown⟩ := settles.of_outcome_bind
      obtain ⟨-, rfl⟩ := rolled.unique rolls
      exact thrown.of_throw.2

def migrator : Migrator Ledger where
  registry := registry

theorem resolve_registry {identifier : String} {migration : Migration Ledger}
    (found : registry.resolve identifier = .ok migration) : migration = creating := by
  unfold MigrationRegistry.resolve at found
  cases looked : registry.migrations.lookup (className identifier) with
  | none =>
      rw [looked] at found
      cases found
  | some other =>
      rw [looked] at found
      cases found
      simp only [registry, List.lookup_cons, List.lookup_nil] at looked
      split at looked <;> cases looked
      rfl

theorem spares (refused : List String) : migrator.Spares (Holds refused) := by
  intro identifier migration heading entries before result after found holds ended
  obtain rfl := resolve_registry found
  obtain ⟨final, performed, kept⟩ := of_use holds ended
  have same : final = ⟨connection, ⟨entries, refused⟩⟩ := by
    cases heading with
    | up => exact transaction_spares rfl performed
    | down => exact transaction_spares rfl performed
  subst same
  rw [kept rfl]
  exact .inr rfl

end Ledger

end SqlToolkit
