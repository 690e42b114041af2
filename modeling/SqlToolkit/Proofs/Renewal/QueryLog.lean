import SqlToolkit.Proofs.Renewal.Exchanges
import SqlToolkit.Proofs.Routines.Holding
/-!
The log of a connection beside the traffic of its requests: however sessions fail and come back, the
log is what was accepted, and a request is sent twice at most.
-/

namespace SqlToolkit

/-- The request that a session was asked, accepted or not. -/
def Event.request? (event : Event) : Option Request :=
  match event.call with
  | .answer _ request => some request
  | _ => none

theorem ConnectionConfig.Opened.asks_nothing {config : ConnectionConfig}
    {result : Except Error (Session × Option Session)} {opened : List Event}
    (calls : config.Opened result opened) : opened.filterMap Event.request? = [] := by
  cases calls with
  | all complete => simp [Event.request?, List.filterMap_map, Function.comp_def]
  | part order => simp [Event.request?, List.filterMap_map, Function.comp_def]

/-- The call neither clears the log nor turns it on or off. -/
def Operation.KeepsLog : Operation → Prop
  | setLogging _ | flush => False
  | _ => True

namespace Link

variable {σ : Type} {start before middle after : Link σ} {request : Request}

/-- The switches are as before, and the log has grown by the statements. -/
structure Notes (statements : List Statement) (before after : Link σ) : Prop where
  logging : after.connection.logging = before.connection.logging
  pretending : after.connection.pretending = before.connection.pretending
  log : after.connection.log = before.connection.log ++ statements.map (⟨·, true⟩)

theorem Notes.trans {statements more : List Statement} (first : Notes statements before middle)
    (second : Notes more middle after) : Notes (statements ++ more) before after := by
  refine ⟨second.logging.trans first.logging, second.pretending.trans first.pretending, ?_⟩
  rw [second.log, first.log, List.map_append, List.append_assoc]

theorem Rewired.notes (rewired : Rewired before after) : Notes [] before after := by
  obtain ⟨write, read, level, same⟩ := rewired
  exact ⟨by rw [same], by rw [same], by rw [same]; exact (List.append_nil _).symm⟩

variable [Recording σ]

/-! One request -/

theorem of_run_talking {result : Except Error request.Answer}
    (talking : before.connection.pretending = false) (ended : Ends (run request) before result after) :
    ∃ served, Ends (persist (Error.query request.statement) (tryRequest request)) before result
      served ∧ after = served.noted request result := by
  rcases of_run ended with ⟨pretending, -⟩ | ⟨-, served, persisted, noted⟩
  · cases talking.symm.trans pretending
  · exact ⟨served, persisted, noted⟩

theorem serves_run {result : Except Error request.Answer}
    (talking : before.connection.pretending = false) (ended : Ends (run request) before result after) :
    ∃ sent served, after = served.noted request result ∧
      after.events = before.events ++ sent ∧ Serves request before result sent served := by
  obtain ⟨served, persisted, rfl⟩ := of_run_talking talking ended
  obtain ⟨sent, recorded, serves⟩ := serves_persist persisted
  exact ⟨sent, served, rfl, (events_noted served result).trans recorded, serves⟩

theorem Reopens.asks_nothing {result : Except Error Unit} {opened : List Event}
    (reopens : Reopens before result opened after) : opened.filterMap Event.request? = [] := by
  cases reopens with
  | renewed opening calls => exact calls.asks_nothing
  | kept opening calls => exact calls.asks_nothing
  | unable lasting => rfl

theorem Tries.asks_once {reply : Except String request.Answer} {sent : List Event}
    (tries : Tries request before reply sent after) :
    sent.filterMap Event.request? <+: [request] := by
  cases tries with
  | unsent missing => exact List.nil_prefix
  | sent chosen answered accepted => exact List.prefix_rfl

theorem Serves.asks_twice {result : Except Error request.Answer} {sent : List Event}
    (serves : Serves request before result sent after) :
    sent.filterMap Event.request? <+: [request, request] := by
  have grown : [request] <+: [request, request] := ⟨[request], rfl⟩
  cases serves with
  | once tried final => exact tried.asks_once.trans grown
  | lost tried renewable reopening =>
      rw [List.filterMap_append, reopening.asks_nothing, List.append_nil]
      exact tried.asks_once.trans grown
  | again tried renewable reopening retried =>
      rw [List.filterMap_append, List.filterMap_append, reopening.asks_nothing, List.append_nil]
      cases tried with
      | unsent missing => exact retried.asks_once.trans grown
      | sent chosen answered accepted =>
          exact (List.prefix_append_right_inj [request]).mpr retried.asks_once

/-! Sequences of calls -/

theorem notes_run {result : Except Error request.Answer} (logging : before.connection.logging = true)
    (talking : before.connection.pretending = false) (ended : Ends (run request) before result after) :
    Notes (if result.isOk then [request.statement] else []) before after := by
  obtain ⟨sent, served, rfl, -, serves⟩ := serves_run talking ended
  have notes := serves.rewired.notes
  cases result with
  | error error => exact notes
  | ok answer =>
      rw [noted_ok answer (notes.logging.trans logging)]
      have logged : Notes [request.statement] served
          { served with connection := served.connection.withLogged request.statement true } :=
        ⟨rfl, rfl, rfl⟩
      exact notes.trans logged

theorem rewired_perform {operation : Operation} {reply : Except Error operation.Answer}
    (silent : operation.statements = []) (keeps : operation.KeepsLog)
    (ended : Ends operation.perform before reply after) : Rewired before after := by
  cases operation with
  | ask request => cases silent
  | begin => exact rewired_begin.of ended
  | commit => exact rewired_commit.of ended
  | rollback => exact rewired_rollback.of ended
  | setLogging on => exact keeps.elim
  | flush => exact keeps.elim
  | setWrite session =>
      rcases of_setWrite ended with ⟨-, -, rfl⟩ | ⟨-, -, rfl⟩
      · exact .refl _
      · exact ⟨_, _, _, rfl⟩
  | setRead session =>
      obtain rfl := Operation.of_setRead ended
      exact ⟨_, _, _, rfl⟩
  | reconnect => exact rewired_reconnect.of ended
  | disconnect => exact ⟨_, _, _, (of_disconnect ended).1⟩

theorem notes_perform {operation : Operation} {reply : Except Error operation.Answer}
    (keeps : operation.KeepsLog) (logging : before.connection.logging = true)
    (talking : before.connection.pretending = false)
    (ended : Ends operation.perform before reply after) :
    Notes (if reply.isOk then operation.statements else []) before after := by
  by_cases silent : operation.statements = []
  · rw [silent, ite_self]
    exact (rewired_perform silent keeps ended).notes
  · cases operation with
    | ask request => exact notes_run logging talking ended
    | begin | commit | rollback | setLogging _ | flush | setWrite _ | setRead _ | reconnect
    | disconnect => exact absurd rfl silent

/-- The statements of the calls that are accepted, each made however the last one ended. -/
def accepted : List Operation → Link σ → List Statement
  | [], _ => []
  | operation :: rest, link =>
      let (reply, after) := ending operation.perform link
      (if reply.isOk then operation.statements else []) ++ after.accepted rest

theorem notes_following {operations : List Operation}
    (keeps : ∀ operation ∈ operations, operation.KeepsLog)
    (logging : before.connection.logging = true) (talking : before.connection.pretending = false) :
    Notes (before.accepted operations) before (before.following operations) := by
  induction operations generalizing before with
  | nil => exact (Rewired.refl before).notes
  | cons operation rest ih =>
      obtain ⟨reply, after, ended⟩ := Ends.exists (operation.perform (σ := σ)) before
      have notes := notes_perform (keeps operation (by simp)) logging talking ended
      have later := ih (fun other member => keeps other (List.mem_cons_of_mem _ member))
        (notes.logging.trans logging) (notes.pretending.trans talking)
      rw [following, List.foldl_cons, accepted, ended.ending_eq]
      exact notes.trans later

/-- Wherever a sequence of calls has led, the log has grown by the statements that were accepted, in
their order; a reopening replaces the sessions or leaves them; and a request is sent at most twice,
for the second time only to sessions that were opened because the first answer told that they are
lost. -/
theorem requests_retried_once_and_logged {start : Link σ}
    (logging : start.connection.logging = true) (talking : start.connection.pretending = false)
    (operations : List Operation) (keeps : ∀ operation ∈ operations, operation.KeepsLog) :
    let link := start.following operations
    link.connection.log = start.connection.log ++ (start.accepted operations).map (⟨·, true⟩) ∧
      (∃ result opened after, Ends reconnect link result after ∧
        after.events = link.events ++ opened ∧ Reopens link result opened after) ∧
      ∀ request, ∃ result sent served,
        Ends (run request) link result (served.noted request result) ∧
          (served.noted request result).events = link.events ++ sent ∧
          Serves request link result sent served ∧
          sent.filterMap Event.request? <+: [request, request] := by
  have notes := notes_following keeps logging talking
  refine ⟨notes.log, ?_, fun request => ?_⟩
  · obtain ⟨result, after, ended⟩ := Ends.exists reconnect (start.following operations)
    obtain ⟨opened, recorded, reopens⟩ := reopens_reconnect ended
    exact ⟨result, opened, after, ended, recorded, reopens⟩
  · obtain ⟨result, after, ended⟩ := Ends.exists (run request) (start.following operations)
    obtain ⟨sent, served, rfl, recorded, serves⟩ :=
      serves_run (notes.pretending.trans talking) ended
    exact ⟨result, sent, served, ended, recorded, serves, serves.asks_twice⟩

/-- A connection with a replica. Its sessions are lost at the first statement, inside a transaction,
and at the last statement, when only one of them opens again. -/
def drifting : Link Script where
  connection :=
    { name := "main",
      config := { driver := "sqlite", read := some (.many []), lostMessages := some ["gone"] },
      vendor := .sqlite, marker := .question, write := some ⟨0, "write", none⟩,
      read := some ⟨1, "read", none⟩, reconnects := true, logging := true }
  database :=
    { statements := [some "Gone away", none, some "gone", none, some "gone"],
      connects := [none, none, none, some "no route"], sessions := 2 }

def troubled : List Operation :=
  [.ask (.fetch false ⟨"SELECT 1", []⟩), .begin, .ask (.execute ⟨"DELETE FROM a", []⟩), .rollback,
    .ask (.execute ⟨"UPDATE a SET b = ?", [.integer 3]⟩)]

theorem drifting_requests_logged :
    (drifting.following troubled).connection.log =
        [⟨⟨"SELECT 1", []⟩, true⟩, ⟨⟨"UPDATE a SET b = ?", [.integer 3]⟩, true⟩] ∧
      ∃ sent served, Serves (.execute ⟨"DELETE FROM b", []⟩) (drifting.following troubled)
        (.error (.driver "no route")) sent served := by
  have keeps : ∀ operation ∈ troubled, operation.KeepsLog := by
    simp [troubled, Operation.KeepsLog]
  have logging : drifting.connection.logging = true := rfl
  obtain ⟨log, -, serves⟩ := requests_retried_once_and_logged logging rfl troubled keeps
  obtain ⟨result, sent, served, ended, -, serves, -⟩ := serves (.execute ⟨"DELETE FROM b", []⟩)
  have statements : drifting.accepted troubled =
      [⟨"SELECT 1", []⟩, ⟨"UPDATE a SET b = ?", [.integer 3]⟩] := by decide
  have refused : (ending (run (.execute ⟨"DELETE FROM b", []⟩)) (drifting.following troubled)).1 =
      .error (.driver "no route") := by rfl
  rw [ended.ending_eq] at refused
  obtain rfl : result = .error (.driver "no route") := refused
  rw [statements] at log
  exact ⟨log, sent, served, serves⟩

end Link

end SqlToolkit
