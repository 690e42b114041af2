import SqlToolkit.Proofs.Routines.Effects
/-!
The sessions of a connection: where they come from, and which of them are told to close. The database
opens no session twice, so a session that is held stays apart from those that are opened later.
-/

namespace SqlToolkit

/-- What holds of a session keeps holding of it. -/
def Retains {σ : Type} (P : σ → Session → Prop) (before after : σ) : Prop :=
  ∀ session, P before session → P after session

theorem Retains.trans {σ : Type} {P : σ → Session → Prop} {before middle after : σ}
    (first : Retains P before middle) (second : Retains P middle after) : Retains P before after :=
  fun session held => second session (first session held)

/-- A database that tells which sessions it has opened, and opens none of them again. -/
class Issuing (σ : Type) extends Recording σ where
  Issued : σ → Session → Prop
  opens : ∀ {config role before session after},
    Ends (connect config role) before (.ok session) after →
      ¬ Issued before session ∧ Issued after session
  keeps_connect : ∀ config role,
    Always (Retains Issued) (connect config role)
  keeps_answer : ∀ session request,
    Always (Retains Issued) (answer session request)
  keeps_control : ∀ session call,
    Always (Retains Issued) (control session call)

namespace Script

instance : Issuing Script where
  Issued script session := session.serial < script.sessions
  opens ended := by
    rcases of_connect ended with ⟨_, _, failed, -⟩ | ⟨session, same, serial, -, sessions⟩
    · cases failed
    · cases same
      constructor <;> omega
  keeps_connect _ _ := by
    intro before result after ended session issued
    rcases of_connect ended with ⟨_, _, -, -, sessions⟩ | ⟨_, -, -, -, sessions⟩ <;> omega
  keeps_answer _ _ := by
    intro before result after ended session issued
    rw [(of_answer ended).1]
    exact issued
  keeps_control _ _ := by
    intro before result after ended session issued
    rw [(of_control ended).1]
    exact issued

end Script

variable {σ : Type} [Issuing σ]

theorem retains_openSessions (config : ConnectionConfig) :
    Always (Retains Issuing.Issued) (openSessions (σ := σ) config) := by
  have refl : ∀ state : σ, Retains Issuing.Issued state state := fun _ _ issued => issued
  refine Always.bind Retains.trans (Issuing.keeps_connect config .write) fun write => ?_
  split
  · exact Always.bind Retains.trans (Issuing.keeps_connect config .read) fun read =>
      Always.pure refl _
  · exact Always.pure refl _

theorem issues_openSessions {config : ConnectionConfig} {before after : σ} {write : Session}
    {read : Option Session} (ended : Ends (openSessions config) before (.ok (write, read)) after) :
    ∀ session ∈ write :: read.toList,
      ¬ Issuing.Issued before session ∧ Issuing.Issued after session := by
  unfold openSessions at ended
  rcases ended.of_bind with ⟨_, -, failed⟩ | ⟨opened, middle, first, rest⟩
  · cases failed
  obtain ⟨new, issued⟩ := Issuing.opens first
  split at rest
  · rcases rest.of_bind with ⟨_, -, failed⟩ | ⟨other, last, second, done⟩
    · cases failed
    obtain ⟨same, rfl⟩ := done.of_pure
    cases same
    obtain ⟨newer, issuedToo⟩ := Issuing.opens second
    have kept : Retains Issuing.Issued before middle := (Issuing.keeps_connect config .write).of first
    have keptToo : Retains Issuing.Issued middle after := (Issuing.keeps_connect config .read).of second
    intro session member
    simp only [Option.toList_some, List.mem_cons, List.not_mem_nil, or_false] at member
    rcases member with rfl | rfl
    · exact ⟨new, keptToo _ issued⟩
    · exact ⟨fun earlier => newer (kept _ earlier), issuedToo⟩
  · obtain ⟨same, rfl⟩ := rest.of_pure
    cases same
    intro session member
    simp only [Option.toList_none, List.mem_cons, List.not_mem_nil, or_false] at member
    rw [member]
    exact ⟨new, issued⟩

namespace Link

variable {before middle after : Link σ}

/-- Each session of the connection was there before or is new, and no other is told to close. -/
structure Renews (before after : Link σ) : Prop where
  retains : Retains Issuing.Issued before.database after.database
  held : ∀ session ∈ after.connection.sessions, session ∈ before.connection.sessions ∨
    (¬ Issuing.Issued before.database session ∧ Issuing.Issued after.database session)
  closes : Appends (fun event => ∀ session, event.call = .control session .close →
    session ∈ before.connection.sessions ∨ ¬ Issuing.Issued before.database session)
    before.events after.events

namespace Renews

theorem of_same (sessions : after.connection.sessions = before.connection.sessions)
    (retains : Retains Issuing.Issued before.database after.database)
    (silent : Appends Event.Lasting before.events after.events) : Renews before after := by
  refine ⟨retains, fun session member => .inl (sessions ▸ member), silent.mono ?_⟩
  intro event other session call
  exact absurd call (other session)

theorem of_database (sessions : after.connection.sessions = before.connection.sessions)
    (database : after.database = before.database) : Renews before after :=
  of_same sessions (fun _ issued => database ▸ issued)
    (.of_eq (congrArg Recording.events database))

theorem refl (link : Link σ) : Renews link link :=
  of_database rfl rfl

theorem trans (first : Renews before middle) (second : Renews middle after) :
    Renews before after := by
  -- What is new in the middle is new at the start as well: no session is forgotten.
  have earlier : ∀ session,
      session ∈ middle.connection.sessions ∨ ¬ Issuing.Issued middle.database session →
        session ∈ before.connection.sessions ∨ ¬ Issuing.Issued before.database session := by
    intro session either
    rcases either with held | new
    · exact (first.held session held).imp_right And.left
    · exact .inr fun issued => new (first.retains session issued)
  refine ⟨first.retains.trans second.retains, ?_, first.closes.trans (second.closes.mono ?_)⟩
  · intro session member
    rcases second.held session member with held | ⟨new, issued⟩
    · exact (first.held session held).imp_right fun ⟨new, issued⟩ =>
        ⟨new, second.retains session issued⟩
    · exact .inr ⟨fun old => new (first.retains session old), issued⟩
  · intro event told session call
    exact earlier session (told session call)

end Renews

/-- What is tried on a session, if there is one, opens no session twice. -/
theorem retains_onSession {β : Type} (pick : Connection → Option Session)
    {action : Session → EStateM String σ β}
    (keeps : ∀ session, Always (Retains Issuing.Issued) (action session)) :
    Always (fun before after : Link σ => Retains Issuing.Issued before.database after.database)
      (fun link => match pick link.connection with
        | none => .error missingSession link
        | some session => onDatabase (action session) link) := by
  intro before result after ended
  rcases of_onSession pick ended with ⟨-, -, rfl⟩ | ⟨session, -, performed, -⟩
  · exact fun _ issued => issued
  · exact (keeps session).of performed

theorem renews_tryRequest (request : Request) : Always Renews (tryRequest (σ := σ) request) := by
  intro before result after ended
  have retains : Retains Issuing.Issued before.database after.database :=
    (retains_onSession (·.session? request) (Issuing.keeps_answer · request)).of ended
  exact .of_same (by rw [kept_tryRequest ended]) retains (lasting_tryRequest ended)

theorem renews_tryControl {control : Control} (lasting : control ≠ .close) :
    Always Renews (tryControl (σ := σ) control) := by
  intro before result after ended
  have retains : Retains Issuing.Issued before.database after.database :=
    (retains_onSession (·.write) (Issuing.keeps_control · control)).of ended
  exact .of_same (by rw [(of_tryControl ended).1]) retains (lasting_tryControl lasting ended)

/-- Either all sessions are new, or the connection is as it was. -/
theorem reconnect_cases {result : Except Error Unit} (ended : Ends reconnect before result after) :
    Retains Issuing.Issued before.database after.database ∧
      ((∃ error, result = .error error ∧ after.connection = before.connection) ∨
        ∃ write read, result = .ok () ∧
          after.connection = { before.connection with write := some write, read } ∧
          ∀ session ∈ write :: read.toList, ¬ Issuing.Issued before.database session ∧
            Issuing.Issued after.database session) := by
  obtain ⟨opened, -, reopens⟩ := reopens_reconnect ended
  cases reopens with
  | @renewed write read opened database opening _ =>
      exact ⟨(retains_openSessions _).of opening, .inr ⟨write, read, rfl, rfl,
        issues_openSessions opening⟩⟩
  | @kept error opened database opening _ =>
      exact ⟨(retains_openSessions _).of opening, .inl ⟨error, rfl, rfl⟩⟩
  | unable _ => exact ⟨fun _ issued => issued, .inl ⟨_, rfl, rfl⟩⟩

theorem renews_reconnect : Always Renews (reconnect (σ := σ)) := by
  intro before result after ended
  have silent := lasting_reconnect ended
  obtain ⟨retains, ⟨error, -, kept⟩ | ⟨write, read, -, renewed, new⟩⟩ := reconnect_cases ended
  · exact .of_same (by rw [kept]) retains silent
  · refine ⟨retains, ?_, silent.mono fun event lasting session told => absurd told (lasting session)⟩
    intro session member
    rw [renewed] at member
    exact .inr (new session member)

theorem renews_run (request : Request) : Always Renews (run (σ := σ) request) := by
  intro before result after ended
  rcases of_run ended with ⟨-, -, rfl⟩ | ⟨-, sent, persisted, rfl⟩
  · exact .of_database rfl rfl
  · have served : Renews before sent :=
      (always_persist .trans renews_reconnect (renews_tryRequest request)).of persisted
    have logged := logs_noted sent result
    exact served.trans (.of_database (by unfold noted; split <;> rfl) logged.database)

theorem renews_level (link : Link σ) (level : Nat) : Renews link (link.atLevel level) :=
  .of_database rfl rfl

/-! What the tries of a boundary and the count do, the boundary does -/

section Boundaries

variable {σ : Type} [Recording σ] {R : Link σ → Link σ → Prop} (refl : ∀ link, R link link)
  (trans : ∀ {before middle after}, R before middle → R middle after → R before after)
  (counts : ∀ link level, R link (link.atLevel level))

include trans counts

theorem always_begin (reopens : Always R (reconnect (σ := σ)))
    (tries : Always R (tryControl (σ := σ) .begin)) : Always R (begin (σ := σ)) := by
  intro before result after ended
  rcases begin_cases ended with ⟨-, -, rfl⟩ | ⟨-, -, begun, persisted, rfl⟩
  · exact counts _ _
  · exact trans ((always_persist (R := R) trans reopens tries).of persisted) (counts _ _)

include refl in
theorem always_commit (tries : Always R (tryControl (σ := σ) .commit)) :
    Always R (commit (σ := σ)) := by
  intro before result after ended
  rcases commit_cases ended with
    ⟨-, -, rfl⟩ | ⟨-, -, -, rfl⟩ | ⟨-, -, committed, tried, rfl⟩
  · exact refl _
  · exact counts _ _
  · exact trans (tries.adaptExcept.of tried) (counts _ _)

theorem always_rollback (tries : Always R (tryControl (σ := σ) .rollback)) :
    Always R (rollback (σ := σ)) := by
  intro before result after ended
  rcases rollback_cases ended with ⟨-, -, rfl⟩ | ⟨-, -, tried⟩
  · exact counts _ _
  · exact trans (counts _ _) (tries.adaptExcept.of tried)

end Boundaries

theorem renews_begin : Always Renews (begin (σ := σ)) :=
  always_begin .trans renews_level renews_reconnect (renews_tryControl nofun)

theorem renews_commit : Always Renews (commit (σ := σ)) :=
  always_commit .refl .trans renews_level (renews_tryControl nofun)

theorem renews_rollback : Always Renews (rollback (σ := σ)) :=
  always_rollback .trans renews_level (renews_tryControl nofun)

theorem renews_disconnect : Always Renews (disconnect (σ := σ)) := by
  intro before result after ended
  obtain ⟨gone, closed, recorded, calls⟩ := of_disconnect ended
  unfold disconnect at ended
  have closing := of_change_bind (of_current ended)
  have keeps : ∀ session, Always (fun before after : Link σ =>
      Retains Issuing.Issued before.database after.database)
      (onDatabase (Database.control session .close)) :=
    fun session _ _ _ told => (Issuing.keeps_control session .close).of (of_onDatabase told).1
  have retains := (Always.each (fun _ _ issued => issued) Retains.trans keeps).of closing
  refine ⟨retains, ?_, closed, recorded, ?_⟩
  · intro session member
    rw [gone] at member
    cases member
  · intro event member session call
    have told : event.call ∈ closed.map Event.call := List.mem_map_of_mem member
    rw [calls, call] at told
    obtain ⟨other, held, same⟩ := List.mem_map.mp told
    cases same
    exact .inl held

end Link

/-- The sessions that the caller of a call opened. -/
def Operation.handed : Operation → List Session
  | setWrite session => [session]
  | setRead session => session.toList
  | _ => []

namespace Link

variable {before after : Link σ}

/-- A call renews what the connection holds, or puts in what the caller opened. -/
theorem renews_or_sets {operation : Operation} {reply : Except Error operation.Answer}
    (ended : Ends operation.perform before reply after) :
    Renews before after ∨ (after.database = before.database ∧
      ∀ session ∈ after.connection.sessions,
        session ∈ before.connection.sessions ∨ session ∈ operation.handed) := by
  cases operation with
  | ask request => exact .inl ((renews_run request).of ended)
  | begin => exact .inl (renews_begin.of ended)
  | commit => exact .inl (renews_commit.of ended)
  | rollback => exact .inl (renews_rollback.of ended)
  | setLogging on =>
      obtain rfl := Operation.of_setLogging ended
      exact .inl (.of_database rfl rfl)
  | flush =>
      obtain rfl := Operation.of_flush ended
      exact .inl (.of_database rfl rfl)
  | setWrite session =>
      rcases of_setWrite ended with ⟨-, -, rfl⟩ | ⟨-, -, rfl⟩
      · exact .inl (.refl _)
      · refine .inr ⟨rfl, fun other member => ?_⟩
        simp only [Connection.sessions, Option.toList_some, List.mem_append, List.mem_singleton]
          at member
        rcases member with rfl | member
        · exact .inr (by simp [Operation.handed])
        · exact .inl (List.mem_append_right _ member)
  | setRead session =>
      obtain rfl := Operation.of_setRead ended
      exact .inr ⟨rfl, fun other member =>
        (List.mem_append.mp member).imp_left (List.mem_append_left _)⟩
  | reconnect => exact .inl (renews_reconnect.of ended)
  | disconnect => exact .inl (renews_disconnect.of ended)

theorem retains_perform {operation : Operation} {reply : Except Error operation.Answer}
    (ended : Ends operation.perform before reply after) :
    Retains Issuing.Issued before.database after.database := by
  rcases renews_or_sets ended with renews | ⟨same, -⟩
  · exact renews.retains
  · exact fun _ issued => same ▸ issued

end Link

end SqlToolkit
