import SqlToolkit.Proofs.Caching.Kept
import SqlToolkit.Proofs.Routines.Managed
/-!
Disconnected connections. What is asked first behind a disconnection fails for want of a session, and
only if the configured texts tell that this is a lost session are new ones opened for it.
-/

namespace SqlToolkit

variable {σ α : Type}

namespace Link

/-- Nothing is open, outside transactions, and there is a way to new sessions. -/
structure Closed (link : Link σ) : Prop where
  write : link.connection.write = none
  read : link.connection.read = none
  outside : link.connection.level = 0
  reconnects : link.connection.reconnects = true
  talking : link.connection.pretending = false

variable [Recording σ] {link renewed served after : Link σ} {request : Request}

/-- The database opens all sessions of the configuration. -/
def Opens (link : Link σ) : Prop :=
  ∃ renewed, Ends reconnect link (.ok ()) renewed

instance : Decidable link.Opens :=
  decidable_of_iff _ Ends.isOk_iff

/-- The request is sent on sessions that are opened for it, and ends as the database answers it
there. -/
def Resumes (link : Link σ) (request : Request) : Prop :=
  ∀ renewed served (reply : Except String request.Answer), Ends reconnect link (.ok ()) renewed →
    Ends (tryRequest request) renewed reply served →
    Ends (run request) link (reply.mapError (Error.query request.statement))
      (served.noted request (reply.mapError (Error.query request.statement)))

/-- A transaction begins on sessions that are opened for it, if the database accepts it there. -/
def Restarts (link : Link σ) : Prop :=
  ∀ renewed begun (reply : Except String Unit), Ends reconnect link (.ok ()) renewed →
    Ends (tryControl .begin) renewed reply begun →
    Ends begin link (reply.mapError Error.driver) (begun.atLevel reply.isOk.toNat)

/-- Without a session, what is tried comes to the sessions that are opened for it, or nowhere. -/
theorem of_persist_missing {wording : String → Error} {attempt : EStateM String (Link σ) α}
    {result : Except Error α} (closed : link.Closed)
    (missing : Ends attempt link (.error missingSession) link)
    (ended : Ends (persist wording attempt) link result after) :
    (link.connection.Recognises missingSession → ∀ {renewed served} {reply : Except String α},
        Ends reconnect link (.ok ()) renewed → Ends attempt renewed reply served →
        result = reply.mapError wording ∧ after = served) ∧
      (¬ link.connection.Recognises missingSession →
        result = .error (wording missingSession) ∧ after = link) := by
  rcases of_persist ended with ⟨inner, tried, rfl, final⟩ | ⟨reason, middle, tried, lost, next⟩
  · obtain ⟨rfl, rfl⟩ := tried.unique missing
    refine ⟨fun recognised => ?_, fun _ => ⟨rfl, rfl⟩⟩
    have lasting := final _ rfl
    rw [Connection.mayReconnect_iff.mpr ⟨closed.reconnects, closed.outside, recognised⟩] at lasting
    cases lasting
  · obtain ⟨same, rfl⟩ := tried.unique missing
    cases same
    have recognised := (Connection.mayReconnect_iff.mp lost).lost
    refine ⟨fun _ renewed served reply reopened again => ?_, fun unknown => absurd recognised unknown⟩
    rcases next with ⟨error, failed, -⟩ | ⟨other, inner, opened, retried, rfl⟩
    · cases (failed.unique reopened).1
    · obtain ⟨-, rfl⟩ := opened.unique reopened
      obtain ⟨rfl, rfl⟩ := retried.unique again
      exact ⟨rfl, rfl⟩

/-- Reopening puts a session for writing in the place of the missing one, at no other depth. -/
theorem reopened_writes (reopened : Ends reconnect link (.ok ()) renewed) :
    renewed.connection.write ≠ none ∧ renewed.connection.level = link.connection.level := by
  obtain ⟨opened, -, reopens⟩ := reopens_reconnect reopened
  cases reopens
  simp

namespace Closed

theorem missing_request (closed : link.Closed) (request : Request) :
    Ends (tryRequest request) link (.error missingSession) link := by
  have none : link.connection.session? request = none := by
    unfold Connection.session?
    split <;> simp [closed.write, closed.read]
  unfold Ends tryRequest
  simp only [none]

theorem missing_control (closed : link.Closed) (control : Control) :
    Ends (tryControl control) link (.error missingSession) link := by
  unfold Ends tryControl
  simp only [closed.write]

theorem resumes_iff (closed : link.Closed) (opens : link.Opens) (request : Request) :
    link.Resumes request ↔ link.connection.Recognises missingSession := by
  obtain ⟨result, after, ended⟩ := Ends.exists (run request) link
  obtain ⟨sent, persisted, rfl⟩ := of_run_talking closed.talking ended
  have told := of_persist_missing closed (closed.missing_request request) persisted
  constructor
  · intro resumes
    refine Decidable.byContradiction fun unknown => ?_
    obtain ⟨renewed, reopened⟩ := opens
    obtain ⟨reply, served, tried⟩ := Ends.exists (tryRequest request) renewed
    -- The request would end where nothing is open, and where a session is.
    obtain ⟨rfl, rfl⟩ := told.2 unknown
    obtain ⟨-, same⟩ := ended.unique (resumes renewed served reply reopened tried)
    have write := congrArg (·.connection.write) same
    simp only [write_noted, kept_tryRequest tried, closed.write] at write
    exact (reopened_writes reopened).1 write.symm
  · intro recognised renewed served reply reopened tried
    obtain ⟨rfl, rfl⟩ := told.1 recognised reopened tried
    exact ended

theorem restarts_iff (closed : link.Closed) (opens : link.Opens) :
    link.Restarts ↔ link.connection.Recognises missingSession := by
  obtain ⟨result, after, ended⟩ := Ends.exists begin link
  obtain ⟨begun, persisted, rfl⟩ := of_begin_outside closed.outside closed.talking ended
  have told := of_persist_missing closed (closed.missing_control .begin) persisted
  constructor
  · intro restarts
    refine Decidable.byContradiction fun unknown => ?_
    obtain ⟨renewed, reopened⟩ := opens
    obtain ⟨reply, other, tried⟩ := Ends.exists (tryControl .begin) renewed
    obtain ⟨rfl, rfl⟩ := told.2 unknown
    obtain ⟨-, same⟩ := ended.unique (restarts renewed other reply reopened tried)
    have write := congrArg (·.connection.write) same
    simp only [atLevel, (of_tryControl tried).1, closed.write] at write
    exact (reopened_writes reopened).1 write.symm
  · intro recognised renewed other reply reopened tried
    obtain ⟨rfl, rfl⟩ := told.1 recognised reopened tried
    have level : begun.connection.level = 0 := by
      rw [(of_tryControl tried).1, (reopened_writes reopened).2, closed.outside]
    rw [level, Nat.zero_add] at ended
    cases reply <;> exact ended

theorem of_disconnect {before : Link σ} {name : String} {config : ConnectionConfig}
    {reply : Except Error Unit} (outside : before.connection.level = 0)
    (tended : before.connection.Tended name config) (ended : Ends disconnect before reply link) :
    link.Closed := by
  obtain ⟨gone, -⟩ := Link.of_disconnect ended
  constructor <;> rw [gone]
  · exact outside
  · exact tended.reconnects
  · exact tended.talking

end Closed

end Link

namespace Connections

variable {state closed : Connections σ} {asked : Option String} {opened : Opened}

/-- To disconnect a name disconnects the connection that is kept under it, which stays kept. -/
theorem of_disconnect_found [Recording σ] {reply : Except Error Unit}
    (found : state.find? (state.resolve asked) = some opened)
    (ended : Ends (disconnect asked) state reply closed) :
    reply = .ok () ∧ ∃ kept, closed.find? (closed.resolve asked) = some kept ∧
      kept.serial = opened.serial ∧
      Ends Link.disconnect (state.link opened) (.ok ()) (closed.link kept) := by
  unfold disconnect at ended
  have chosen := ended.of_get
  simp only [found] at chosen
  obtain ⟨final, performed, rfl⟩ := of_runOn chosen
  obtain rfl := Link.disconnect_succeeds performed
  exact ⟨rfl, { opened with connection := final.connection }, find?_updated found, rfl, performed⟩

theorem use_found [Database σ] {action : Action σ α} {result : Except Error α} {final : Link σ}
    (found : state.find? (state.resolve asked) = some opened)
    (performed : Ends action (state.link opened) result final) :
    Ends (use asked action) state result
      { state.update (state.resolve asked) final.connection with database := final.database } := by
  obtain ⟨reply, after, ended⟩ := Ends.exists (use asked action) state
  obtain ⟨other, again, same⟩ := of_use_found found ended
  obtain ⟨rfl, rfl⟩ := performed.unique again
  exact same ▸ ended

end Connections

open Link in
/-- A disconnected connection comes back with the first request or transaction, if the database opens
sessions for it, just if the configured texts tell that a missing session is a lost one. So it is for
a connection that is held, whatever was done on it before, and for one that is kept under a name. -/
theorem disconnected_resumes_iff [Recording σ] :
    (∀ {α : Type} (name : String) (config : ConnectionConfig) (database opened : σ)
      (connection : Connection) (routine : Routine α) (result : Except Error α) (link : Link σ),
      Ends (Connection.connect name config) database (.ok connection) opened →
      Ends routine.perform ⟨connection, opened⟩ result link → link.connection.level = 0 →
      ∃ closed, Ends disconnect link (.ok ()) closed ∧ (closed.Opens →
        (∀ request, closed.Resumes request ↔ connection.Recognises missingSession) ∧
        (closed.Restarts ↔ connection.Recognises missingSession))) ∧
    ∀ (config : DatabaseConfig) (database : σ) (directives : List Directive)
      (asked : Option String) (opened : Opened),
      let state := (Connections.make config database).following directives
      state.find? (state.resolve asked) = some opened → opened.connection.level = 0 →
      ∃ closed kept, Ends (Connections.disconnect asked) state (.ok ()) closed ∧
        closed.find? (closed.resolve asked) = some kept ∧ kept.serial = opened.serial ∧
        (∀ {α : Type} (action : Action σ α) (result : Except Error α) (final : Link σ),
          Ends action (closed.link kept) result final →
          Ends (Connections.use asked action) closed result
            { closed.update (closed.resolve asked) final.connection with
              database := final.database }) ∧
        ((closed.link kept).Opens →
          (∀ request, (closed.link kept).Resumes request ↔
            opened.connection.Recognises missingSession) ∧
          ((closed.link kept).Restarts ↔ opened.connection.Recognises missingSession)) := by
  have recognises : ∀ {first second : Connection}, second.config = first.config →
      (second.Recognises missingSession ↔ first.Recognises missingSession) := by
    intro first second same
    simp only [Connection.Recognises, Connection.lostMessages, same]
  constructor
  · intro α name config database opened connection routine result link connected performed outside
    have alike := Routine.alike performed
    have tended := alike.tended (Connection.tended_of_connect connected)
    obtain ⟨reply, closed, ended⟩ := Ends.exists disconnect link
    obtain rfl := disconnect_succeeds ended
    have shut := Closed.of_disconnect outside tended ended
    have same : closed.connection.config = connection.config := by
      rw [(Link.of_disconnect ended).1]
      exact alike.config
    refine ⟨closed, ended, fun opens => ⟨fun request => ?_, ?_⟩⟩
    · exact (shut.resumes_iff opens request).trans (recognises same)
    · exact (shut.restarts_iff opens).trans (recognises same)
  · intro config database directives asked opened state found outside
    have tidy := Connections.tidy_following (.start config database) directives
    obtain ⟨own, -, tended⟩ := tidy.tended _ (Connections.mem_of_find? found)
    obtain ⟨reply, closed, ended⟩ := Ends.exists (Connections.disconnect asked) state
    obtain ⟨rfl, kept, there, serial, performed⟩ := Connections.of_disconnect_found found ended
    have shut := Closed.of_disconnect outside tended performed
    have same : kept.connection.config = opened.connection.config :=
      congrArg (·.config) (Link.of_disconnect performed).1
    refine ⟨closed, kept, ended, there, serial, ?_, fun opens => ⟨fun request => ?_, ?_⟩⟩
    · exact fun action result final performed => Connections.use_found there performed
    · exact (shut.resumes_iff opens request).trans (recognises same)
    · exact (shut.restarts_iff opens).trans (recognises same)

/-- A connection to an empty database, open for the first time, with texts for lost sessions. -/
def opening (texts : List String) : Link Script where
  connection :=
    { name := "main", config := { driver := "sqlite", lostMessages := some texts },
      vendor := .sqlite, marker := .question, write := some ⟨0, "write", none⟩, read := none,
      reconnects := true, logging := false }
  database :=
    { sessions := 1
      events := [⟨.connect { driver := "sqlite", lostMessages := some texts } .write, none⟩] }

theorem connect_opening (texts : List String) :
    Ends (Connection.connect "main" { driver := "sqlite", lostMessages := some texts }) {}
      (.ok (opening texts).connection) (opening texts).database := by
  have vendor : ({ driver := "sqlite", lostMessages := some texts } : ConnectionConfig).vendor =
      .ok .sqlite :=
    (by rfl : Vendor.ofName "sqlite" = .ok .sqlite)
  simp only [Ends, Connection.connect, Connection.make, vendor, ConnectionConfig.marker]
  rfl

/-- Disconnects, comes back for a statement, and has nothing open again. -/
def intermittent : Routine Unit :=
  .call .disconnect fun _ => .call (.ask (.execute ⟨"DELETE FROM a", []⟩)) fun _ => .done ()

/-- The connection of a configuration behind such a run. -/
def interrupted : Connections Script :=
  Connections.following [.on none intermittent] (.make
    (.single "main" { driver := "sqlite", lostMessages := some ["No Connection"] }) {})

theorem disconnected_opening_resumes :
    (∃ closed, Ends Link.disconnect
        (ending intermittent.perform (opening ["No Connection"])).2 (.ok ()) closed ∧
      (∀ request, closed.Resumes request) ∧ closed.Restarts) ∧
    ∃ closed kept, Ends (Connections.disconnect none) interrupted (.ok ()) closed ∧
      closed.find? (closed.resolve none) = some kept ∧
      (∀ request, (closed.link kept).Resumes request) ∧ (closed.link kept).Restarts := by
  constructor
  · obtain ⟨closed, ended, comes⟩ := disconnected_resumes_iff.1 "main" _ _ _ _ intermittent
      _ _ (connect_opening ["No Connection"]) (Ends.of_ending _ _) (by decide)
    obtain rfl := ((Ends.of_ending _ _).unique ended).2
    have recognised : (opening ["No Connection"]).connection.Recognises Link.missingSession := by
      decide
    obtain ⟨resumes, restarts⟩ := comes (by decide +kernel)
    exact ⟨_, ended, fun request => (resumes request).mpr recognised, restarts.mpr recognised⟩
  · have looked : (interrupted.find? (interrupted.resolve none)).map (fun opened =>
        (opened.connection.level, opened.connection.isLost Link.missingSession)) =
          some (0, true) := by
      decide +kernel
    have opens : ∀ kept ∈ (ending (Connections.disconnect none) interrupted).2.find?
          ((ending (Connections.disconnect none) interrupted).2.resolve none),
        ((ending (Connections.disconnect none) interrupted).2.link kept).Opens := by
      decide +kernel
    obtain ⟨opened, found, same⟩ := Option.map_eq_some_iff.mp looked
    obtain ⟨outside, lost⟩ := Prod.mk.inj same
    obtain ⟨closed, kept, closes, there, -, -, comes⟩ := (disconnected_resumes_iff (σ := Script)).2
      (.single "main" { driver := "sqlite", lostMessages := some ["No Connection"] }) {}
      [.on none intermittent] none opened found outside
    have ended : Ends (Connections.disconnect none) interrupted (.ok ()) closed := closes
    rw [ended.ending_eq] at opens
    obtain ⟨resumes, restarts⟩ := comes (opens kept there)
    have recognised := Connection.isLost_iff.mp lost
    exact ⟨closed, kept, ended, there, fun request => (resumes request).mpr recognised,
      restarts.mpr recognised⟩

/-- A connection whose texts do not tell of a missing session stays closed, although the database
opens sessions and answers on them. -/
theorem deaf_connection_stays_closed :
    let texts := ["server has gone away"]
    let closed := (ending Link.disconnect (opening texts)).2
    Ends (Connection.connect "main" { driver := "sqlite", lostMessages := some texts }) {}
      (.ok (opening texts).connection) (opening texts).database ∧
    Ends Link.disconnect (opening texts) (.ok ()) closed ∧
    (∃ renewed served, Ends Link.reconnect closed (.ok ()) renewed ∧
      Ends (Link.tryRequest (.fetch false ⟨"SELECT 1", []⟩)) renewed (.ok []) served) ∧
    Ends (Link.run (.fetch false ⟨"SELECT 1", []⟩)) closed
      (.error (.query ⟨"SELECT 1", []⟩ Link.missingSession)) closed ∧
    Ends Link.begin closed (.error (.driver Link.missingSession)) closed :=
  ⟨connect_opening _, rfl, ⟨_, _, rfl, rfl⟩, rfl, rfl⟩

end SqlToolkit
