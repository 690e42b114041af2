import SqlToolkit.Proofs.Routines.Effects
/-!
The session that holds a transaction: requests and the boundaries of transactions in any order, each
of them accepted or not. As long as a transaction is counted it is open on one session, and that is
the session to which everything is sent.
-/

namespace SqlToolkit

namespace Operation

/-- Requests and the boundaries of transactions. -/
def Plain : Operation → Prop
  | ask _ | begin | commit | rollback => True
  | _ => False

/-- What a plain call does to the depth of transactions. A depth that falls was positive. -/
inductive Counts : Operation → Bool → Nat → Nat → Prop
  | asked (request : Request) (accepted : Bool) (level : Nat) :
      Counts (ask request) accepted level level
  | opened (level : Nat) : Counts begin true level (level + 1)
  | unopened : Counts begin false 0 0
  | committed (level : Nat) : Counts commit true (level + 1) level
  | uncommitted (level : Nat) : Counts commit false level level
  | undone (accepted : Bool) (level : Nat) : Counts rollback accepted (level + 1) level
  | idle (accepted : Bool) : Counts rollback accepted 0 0

/-- The control that a call sends, by the depth at which it is made. -/
inductive Sends : Operation → Nat → Control → Prop
  | begin : Sends begin 0 .begin
  | commit : Sends commit 1 .commit
  | rollback : Sends rollback 1 .rollback

/-- The events that a call puts on record are requests, new sessions, and the control that is due. -/
def Accounts (operation : Operation) (level : Nat) (event : Event) : Prop :=
  ∀ session control, event.call = .control session control → operation.Sends level control

theorem Accounts.of_connects {operation : Operation} {level : Nat} {event : Event}
    (connects : event.Connects) : operation.Accounts level event := by
  obtain ⟨config, role, call⟩ := connects
  intro session control other
  rw [call] at other
  cases other

theorem Accounts.of_answer {operation : Operation} {level : Nat} {event : Event}
    {session : Session} {request : Request} (call : event.call = .answer session request) :
    operation.Accounts level event := by
  intro other control said
  rw [call] at said
  cases said

theorem Accounts.of_control {operation : Operation} {level : Nat} {event : Event}
    {session : Session} {control : Control} (call : event.call = .control session control)
    (sends : operation.Sends level control) : operation.Accounts level event := by
  intro other said same
  rw [call] at same
  cases same
  exact sends

end Operation

/-- A request that was answered on the session, or a commit that was refused on it. -/
def Event.Within (session : Session) (event : Event) : Prop :=
  (∃ request, event.call = .answer session request) ∨
    ∃ reason, event = ⟨.control session .commit, some reason⟩

namespace Link

variable {σ : Type} [Recording σ] {start before after : Link σ}

/-- The session for writing is the one on which the last begin was accepted, and nothing but
requests and refused commits came behind it. -/
structure Holds (session : Session) (start link : Link σ) : Prop where
  write : link.connection.write = some session
  opened : ∃ earlier since,
    link.events = start.events ++ earlier ++ [⟨.control session .begin, none⟩] ++ since ∧
      ∀ event ∈ since, event.Within session

theorem Holds.onward {session : Session} (holds : Holds session start before)
    (write : after.connection.write = before.connection.write)
    (appends : Appends (Event.Within session) before.events after.events) : Holds session start after := by
  obtain ⟨sent, recorded, each⟩ := appends
  obtain ⟨earlier, since, known, within⟩ := holds.opened
  refine ⟨write.trans holds.write, earlier, since ++ sent, ?_, ?_⟩
  · rw [recorded, known, List.append_assoc]
  · intro event member
    rcases List.mem_append.mp member with inSince | inSent
    · exact within event inSince
    · exact each event inSent

/-- A point of a sequence of plain calls that began outside transactions. -/
structure Agrees (start link : Link σ) : Prop where
  talking : link.connection.pretending = false
  recorded : ∃ sent, link.events = start.events ++ sent
  held : link.connection.level ≠ 0 → ∃ session, Holds session start link

namespace Agrees

theorem inside (agrees : Agrees start before) (nested : before.connection.level ≠ 0) :
    ∃ session, Holds session start before ∧ Inside session before := by
  obtain ⟨session, holds⟩ := agrees.held nested
  exact ⟨session, holds, Nat.one_le_iff_ne_zero.mpr nested, holds.write, agrees.talking⟩

theorem closed (agrees : Agrees start before) {P : Event → Prop}
    (quiet : after.connection.pretending = false) (outside : after.connection.level = 0)
    (appends : Appends P before.events after.events) : Agrees start after := by
  obtain ⟨sent, recorded, -⟩ := appends
  obtain ⟨earlier, known⟩ := agrees.recorded
  refine ⟨quiet, ⟨earlier ++ sent, ?_⟩, fun nested => absurd outside nested⟩
  rw [recorded, known, List.append_assoc]

theorem kept (agrees : Agrees start before) {session : Session}
    (holds : Holds session start before) (quiet : after.connection.pretending = false)
    (write : after.connection.write = before.connection.write)
    (appends : Appends (Event.Within session) before.events after.events) : Agrees start after := by
  have onward : Holds session start after := holds.onward write appends
  obtain ⟨sent, recorded, -⟩ := appends
  obtain ⟨earlier, known⟩ := agrees.recorded
  refine ⟨quiet, ⟨earlier ++ sent, ?_⟩, fun _ => ⟨session, onward⟩⟩
  rw [recorded, known, List.append_assoc]

theorem recounted (agrees : Agrees start before) {level : Nat}
    (nested : before.connection.level ≠ 0 ∨ level = 0) : Agrees start (before.atLevel level) := by
  by_cases outside : level = 0
  · exact agrees.closed (P := fun _ => False) agrees.talking outside (.of_eq rfl)
  · obtain ⟨session, holds⟩ := agrees.held (nested.resolve_right outside)
    exact agrees.kept holds agrees.talking rfl (.of_eq rfl)

end Agrees

/-- What one plain call does at a point of a sequence. -/
structure Moves (start : Link σ) (operation : Operation) (accepted : Bool)
    (before after : Link σ) : Prop where
  agrees : Agrees start after
  counts : operation.Counts accepted before.connection.level after.connection.level
  accounts : Appends (operation.Accounts before.connection.level) before.events after.events

theorem accounts_control {operation : Operation} {session : Session} {control : Control}
    {refusal : Option String} (sends : operation.Sends before.connection.level control)
    (recorded : after.events = before.events ++ [⟨.control session control, refusal⟩]) :
    Appends (operation.Accounts before.connection.level) before.events after.events := by
  exact .single recorded (.of_control rfl sends)

theorem asks {request : Request} {result : Except Error request.Answer}
    (agrees : Agrees start before) (ended : Ends (run request) before result after) :
    Moves start (.ask request) result.isOk before after := by
  have steady := (steady_run ended).1
  have counts : (Operation.ask request).Counts result.isOk before.connection.level
      after.connection.level := by
    rw [steady.level]
    exact .asked request _ _
  have accounts : Appends ((Operation.ask request).Accounts before.connection.level) before.events after.events := by
    refine (appends_run ended).mono fun event sent => ?_
    rcases sent with connects | ⟨session, call⟩
    · exact .of_connects connects
    · exact .of_answer call
  refine ⟨?_, counts, accounts⟩
  have quiet := steady.pretending.trans agrees.talking
  by_cases outside : before.connection.level = 0
  · exact agrees.closed quiet (steady.level.trans outside) accounts
  · obtain ⟨session, holds, inside⟩ := agrees.inside outside
    have talks := inside.run ended
    obtain ⟨asked, recorded, calls⟩ := talks.asked
    refine agrees.kept holds quiet talks.write ⟨asked, recorded, fun event member => ?_⟩
    have said : event.call ∈ asked.map Event.call := List.mem_map_of_mem member
    rw [calls] at said
    exact .inl ⟨request, by simpa using said⟩

theorem begins {result : Except Error Unit} (agrees : Agrees start before)
    (ended : Ends begin before result after) : Moves start .begin result.isOk before after := by
  by_cases outside : before.connection.level = 0
  · obtain ⟨⟨opened, opens, sent⟩, quiet, level⟩ := of_begin outside agrees.talking ended
    have due : ∀ event ∈ opened, Operation.begin.Accounts before.connection.level event := by
      intro event member
      rcases opens event member with connects | ⟨session, reason, rfl⟩
      · exact .of_connects connects
      · rw [outside]
        exact .of_control rfl .begin
    cases result with
    | error error =>
        have accounts : Appends (Operation.begin.Accounts before.connection.level) before.events after.events :=
          ⟨opened, sent, due⟩
        refine ⟨agrees.closed quiet level accounts, ?_, accounts⟩
        rw [outside, level]
        exact .unopened
    | ok value =>
        obtain ⟨session, write, recorded⟩ := sent
        obtain ⟨earlier, known⟩ := agrees.recorded
        have whole : after.events =
            start.events ++ (earlier ++ opened) ++ [⟨.control session .begin, none⟩] := by
          rw [recorded, known]
          simp only [List.append_assoc]
        refine ⟨⟨quiet, ⟨_, whole.trans (List.append_assoc _ _ _)⟩, fun _ => ?_⟩, ?_, ?_⟩
        · exact ⟨session, write, earlier ++ opened, [], by rw [whole, List.append_nil], by simp⟩
        · rw [outside, level]
          exact .opened 0
        · refine ⟨opened ++ [⟨.control session .begin, none⟩], ?_, fun event member => ?_⟩
          · rw [recorded, List.append_assoc]
          · rcases List.mem_append.mp member with inOpened | last
            · exact due event inOpened
            · rw [List.mem_singleton.mp last, outside]
              exact .of_control rfl .begin
  · obtain ⟨rfl, rfl⟩ := of_begin_counted (.inl outside) ended
    exact ⟨agrees.recounted (.inl outside), .opened _, .of_eq rfl⟩

theorem commits {result : Except Error Unit} (agrees : Agrees start before)
    (ended : Ends commit before result after) : Moves start .commit result.isOk before after := by
  by_cases outside : before.connection.level = 0
  · obtain ⟨rfl, rfl⟩ := of_commit_outside outside ended
    exact ⟨agrees, .uncommitted _, .of_eq rfl⟩
  by_cases single : before.connection.level = 1
  · obtain ⟨session, holds, inside⟩ := agrees.inside outside
    have sends : Operation.commit.Sends before.connection.level .commit := by
      rw [single]
      exact .commit
    rcases of_commit single agrees.talking inside.write ended with
      ⟨rfl, level, quiet, recorded⟩ | ⟨error, reason, rfl, kept, recorded⟩
    · have accounts := accounts_control sends recorded
      refine ⟨agrees.closed quiet level accounts, ?_, accounts⟩
      rw [single, level]
      exact .committed 0
    -- A refused commit ends nothing: the session still holds what it held.
    · have accounts := accounts_control sends recorded
      have within : Appends (Event.Within session) before.events after.events :=
        .single recorded (.inr ⟨reason, rfl⟩)
      refine ⟨agrees.kept holds (by rw [kept, agrees.talking]) (by rw [kept]) within, ?_, accounts⟩
      rw [kept]
      exact .uncommitted _
  · obtain ⟨rfl, rfl⟩ := of_commit_counted outside (.inl single) ended
    refine ⟨agrees.recounted (.inl outside), ?_, .of_eq rfl⟩
    obtain ⟨lower, deeper⟩ := Nat.exists_eq_succ_of_ne_zero outside
    change Operation.Counts _ _ before.connection.level (before.connection.level - 1)
    rw [deeper]
    exact .committed lower

theorem rollsBack {result : Except Error Unit} (agrees : Agrees start before)
    (ended : Ends rollback before result after) :
    Moves start .rollback result.isOk before after := by
  by_cases single : before.connection.level = 1
  · obtain ⟨session, -, inside⟩ := agrees.inside (by omega)
    obtain ⟨level, quiet, refusal, recorded⟩ :=
      of_rollback single agrees.talking inside.write ended
    have sends : Operation.rollback.Sends before.connection.level .rollback := by
      rw [single]
      exact .rollback
    have accounts := accounts_control sends recorded
    refine ⟨agrees.closed quiet level accounts, ?_, accounts⟩
    rw [single, level]
    exact .undone _ 0
  · obtain rfl := of_rollback_counted (.inl single) ended
    refine ⟨agrees.recounted (by omega), ?_, .of_eq rfl⟩
    change Operation.Counts _ _ before.connection.level (before.connection.level - 1)
    cases before.connection.level with
    | zero => exact .idle _
    | succ lower => exact .undone _ lower

theorem moves {operation : Operation} {reply : Except Error operation.Answer}
    (plain : operation.Plain) (agrees : Agrees start before)
    (ended : Ends operation.perform before reply after) :
    Moves start operation reply.isOk before after := by
  cases operation with
  | ask request => exact asks agrees ended
  | begin => exact begins agrees ended
  | commit => exact commits agrees ended
  | rollback => exact rollsBack agrees ended
  | setLogging _ | flush | setWrite _ | setRead _ | reconnect | disconnect => cases plain

/-- The point behind a sequence of calls, each made however the last one ended. -/
def following (operations : List Operation) (link : Link σ) : Link σ :=
  operations.foldl (fun link operation => (ending operation.perform link).2) link

theorem Agrees.following {operations : List Operation} (agrees : Agrees start before)
    (plain : ∀ operation ∈ operations, operation.Plain) :
    Agrees start (before.following operations) := by
  induction operations generalizing before with
  | nil => exact agrees
  | cons operation rest ih =>
      obtain ⟨reply, after, ended⟩ := Ends.exists (operation.perform (σ := σ)) before
      have moved := moves (plain operation (by simp)) agrees ended
      have later := ih moved.agrees fun other member => plain other (List.mem_cons_of_mem _ member)
      rw [Link.following, List.foldl_cons, ended.ending_eq]
      exact later

theorem Inside.asked_once {session : Session} {request : Request}
    {reply : Except Error request.Answer} (inside : Inside session before)
    (ended : Ends (Link.run request) before reply after) :
    ∃ refusal, after.events = before.events ++ [⟨.answer session request, refusal⟩] := by
  obtain ⟨asked, recorded, calls⟩ := (inside.run ended).asked
  obtain ⟨⟨call, refusal⟩, rfl, same⟩ := List.map_eq_singleton_iff.mp calls
  cases same
  exact ⟨refusal, recorded⟩

/-- Wherever a sequence of plain calls has led, the next one changes the depth by at most one, and
never below zero; only the outermost boundaries are sent to the database; and a transaction that is
counted is open on the session for writing, which alone is asked. -/
theorem counter_and_session_agree {start : Link σ} (outside : start.connection.level = 0)
    (talking : start.connection.pretending = false) (operations : List Operation)
    (plain : ∀ operation ∈ operations, operation.Plain) :
    let link := start.following operations
    (∀ operation : Operation, operation.Plain → ∃ reply after,
        Ends operation.perform link reply after ∧
          operation.Counts reply.isOk link.connection.level after.connection.level ∧
          Appends (operation.Accounts link.connection.level) link.events after.events) ∧
      (1 ≤ link.connection.level → ∃ session, Holds session start link ∧
        ∀ request, ∃ reply after refusal, Ends (run request) link reply after ∧
          after.events = link.events ++ [⟨.answer session request, refusal⟩]) := by
  have initial : Agrees start start :=
    ⟨talking, ⟨[], (List.append_nil _).symm⟩, fun nested => absurd outside nested⟩
  have agrees : Agrees start (start.following operations) := initial.following plain
  constructor
  · intro operation next
    obtain ⟨reply, after, ended⟩ :=
      Ends.exists (operation.perform (σ := σ)) (start.following operations)
    have moved := moves next agrees ended
    exact ⟨reply, after, ended, moved.counts, moved.accounts⟩
  · intro nested
    obtain ⟨session, holds, inside⟩ := agrees.inside (by omega)
    refine ⟨session, holds, fun request => ?_⟩
    obtain ⟨reply, after, ended⟩ := Ends.exists (run (σ := σ) request) (start.following operations)
    obtain ⟨refusal, recorded⟩ := inside.asked_once ended
    exact ⟨reply, after, refusal, ended, recorded⟩

/-- A connection whose session is lost before the first begin, and whose first commit fails. -/
def lapsing : Link Script where
  connection :=
    { name := "main", config := { driver := "sqlite" }, vendor := .sqlite, marker := .question,
      write := some ⟨0, "write", none⟩, read := none, reconnects := true, logging := false }
  database :=
    { begins := [some "server has gone away"], statements := [some "lost connection"],
      commits := [some "disk full"], sessions := 1 }

def unbalanced : List Operation :=
  [.commit, .begin, .begin, .ask (.fetch false ⟨"SELECT 1", []⟩), .commit, .commit]

theorem lapsing_session_holds :
    (lapsing.following unbalanced).connection.level = 1 ∧
      Holds ⟨1, "write", none⟩ lapsing (lapsing.following unbalanced) := by
  have plain : ∀ operation ∈ unbalanced, operation.Plain := by
    simp [unbalanced, Operation.Plain]
  obtain ⟨level, write⟩ : (lapsing.following unbalanced).connection.level = 1 ∧
      (lapsing.following unbalanced).connection.write = some ⟨1, "write", none⟩ := by decide
  obtain ⟨session, holds, -⟩ :=
    (counter_and_session_agree rfl rfl unbalanced plain).2 (Nat.le_of_eq level.symm)
  obtain rfl := Option.some.inj (holds.write.symm.trans write)
  exact ⟨level, holds⟩

end Link

end SqlToolkit
