import SqlToolkit.Proofs.Transactions.Attempts
/-!
What the operations of a connection do to it, and what they leave in the record of the database.
-/

namespace SqlToolkit

def Event.Connects (event : Event) : Prop :=
  ∃ config role, event.call = .connect config role

/-- A refused begin or a new session, as there may be before a transaction is open. -/
def Event.Opens (event : Event) : Prop :=
  event.Connects ∨ ∃ session reason, event = ⟨.control session .begin, some reason⟩

theorem ConnectionConfig.Opened.connects {config : ConnectionConfig}
    {result : Except Error (Session × Option Session)} {opened : List Event}
    (calls : config.Opened result opened) : ∀ event ∈ opened, event.Connects := by
  have each : ∀ (roles : List Role) (event : Event),
      event ∈ roles.map (fun role => ⟨.connect config role, none⟩) → event.Connects := by
    intro roles event member
    obtain ⟨role, -, rfl⟩ := List.mem_map.mp member
    exact ⟨config, role, rfl⟩
  cases calls with
  | all _ => exact each _
  | part opened role later order =>
      intro event member
      rcases List.mem_append.mp member with member | member
      · exact each opened event member
      · obtain rfl := List.mem_singleton.mp member
        exact ⟨config, role, rfl⟩

namespace Link

variable {σ : Type}

/-- The depth of transactions and the switch for pretending are as they were. -/
structure Steady (before after : Link σ) : Prop where
  level : after.connection.level = before.connection.level
  pretending : after.connection.pretending = before.connection.pretending

theorem Steady.refl (link : Link σ) : Steady link link :=
  ⟨rfl, rfl⟩

theorem Steady.trans {before middle after : Link σ} (first : Steady before middle)
    (second : Steady middle after) : Steady before after :=
  ⟨second.level.trans first.level, second.pretending.trans first.pretending⟩

/-- At most the log of the connection is changed. -/
structure Logs (before after : Link σ) : Prop extends Steady before after where
  write : after.connection.write = before.connection.write
  database : after.database = before.database

theorem Logs.refl (link : Link σ) : Logs link link :=
  ⟨.refl link, rfl, rfl⟩

/-! Requests -/

/-- An accepted request goes into the log if the log is on. -/
def noted (link : Link σ) (request : Request) (result : Except Error request.Answer) : Link σ :=
  if result.isOk && link.connection.logging then
    { link with connection := link.connection.withLogged request.statement true }
  else link

theorem noted_ok {request : Request} {before : Link σ} (answer : request.Answer)
    (logging : before.connection.logging = true) :
    before.noted request (.ok answer) =
      { before with connection := before.connection.withLogged request.statement true } :=
  if_pos (by rw [logging]; rfl)

theorem logs_noted {request : Request} (link : Link σ) (result : Except Error request.Answer) :
    Logs link (link.noted request result) := by
  unfold noted
  split
  · exact ⟨⟨rfl, rfl⟩, rfl, rfl⟩
  · exact .refl _

theorem write_noted {request : Request} (link : Link σ) (result : Except Error request.Answer) :
    (link.noted request result).connection.write = link.connection.write :=
  (logs_noted link result).write

/-- While pretending, a request is only logged; else it is sent, and is logged if it is accepted. -/
theorem of_run [Database σ] {request : Request} {before after : Link σ}
    {result : Except Error request.Answer} (ended : Ends (run request) before result after) :
    (before.connection.pretending = true ∧ result = .ok request.idleAnswer ∧
        after = { before with
          connection := before.connection.withLogged request.statement false }) ∨
      before.connection.pretending = false ∧ ∃ sent,
        Ends (persist (Error.query request.statement) (tryRequest request)) before result sent ∧
          after = sent.noted request result := by
  unfold run at ended
  have rest := of_current ended
  split at rest
  · rename_i pretending
    obtain ⟨rfl, rfl⟩ := (of_change_bind rest).of_pure
    exact .inl ⟨pretending, rfl, rfl⟩
  · rename_i talking
    refine .inr ⟨by simpa using talking, ?_⟩
    rcases rest.of_bind with ⟨error, failed, rfl⟩ | ⟨answer, sent, answered, rest⟩
    · exact ⟨after, failed, rfl⟩
    · replace rest := of_current rest
      split at rest
      · rename_i logging
        obtain ⟨rfl, rfl⟩ := (of_change_bind rest).of_pure
        exact ⟨sent, answered, (noted_ok answer logging).symm⟩
      · rename_i silent
        obtain ⟨rfl, rfl⟩ := rest.of_pure
        exact ⟨after, answered, (if_neg (by simp [silent])).symm⟩

theorem of_run_pretending [Database σ] {request : Request} {before after : Link σ}
    {result : Except Error request.Answer} (pretending : before.connection.pretending = true)
    (ended : Ends (run request) before result after) :
    result = .ok request.idleAnswer ∧
      after = { before with connection := before.connection.withLogged request.statement false } := by
  rcases of_run ended with ⟨-, answered, logged⟩ | ⟨talking, -⟩
  · exact ⟨answered, logged⟩
  · cases talking.symm.trans pretending

/-! New sessions -/

variable [Recording σ]

theorem events_noted {request : Request} (link : Link σ) (result : Except Error request.Answer) :
    (link.noted request result).events = link.events :=
  congrArg Recording.events (logs_noted link result).database

theorem of_openSessions {config : ConnectionConfig} {before after : σ}
    {result : Except Error (Session × Option Session)}
    (ended : Ends (openSessions config) before result after) :
    ∃ opened, Recording.events after = Recording.events before ++ opened ∧
      ∀ event ∈ opened, event.Connects := by
  obtain ⟨opened, recorded, calls⟩ := opened_openSessions ended
  exact ⟨opened, recorded, calls.connects⟩

theorem of_reconnect {before after : Link σ} {result : Except Error Unit}
    (ended : Ends reconnect before result after) :
    Steady before after ∧ ∃ opened, after.events = before.events ++ opened ∧
      ∀ event ∈ opened, event.Connects := by
  obtain ⟨opened, recorded, reopens⟩ := reopens_reconnect ended
  cases reopens with
  | renewed _ calls | kept _ calls => exact ⟨⟨rfl, rfl⟩, opened, recorded, calls.connects⟩
  | unable _ => exact ⟨.refl _, [], recorded, by simp⟩

/-- A request or a control is tried once, or twice with new sessions between. -/
theorem of_persist {α : Type} {wording : String → Error} {attempt : EStateM String (Link σ) α}
    {before after : Link σ} {result : Except Error α}
    (ended : Ends (persist wording attempt) before result after) :
    (∃ inner, Ends attempt before inner after ∧ result = inner.mapError wording ∧
      ∀ reason, inner = .error reason → after.connection.mayReconnect reason = false) ∨
    ∃ reason middle, Ends attempt before (.error reason) middle ∧
      middle.connection.mayReconnect reason = true ∧
      ((∃ error, Ends reconnect middle (.error error) after ∧ result = .error error) ∨
        ∃ renewed inner, Ends reconnect middle (.ok ()) renewed ∧ Ends attempt renewed inner after ∧
          result = inner.mapError wording) := by
  unfold persist at ended
  obtain ⟨inner, middle, first, rest⟩ := ended.of_outcome_bind
  cases inner with
  | ok value =>
      obtain ⟨rfl, rfl⟩ := rest.of_pure
      exact .inl ⟨.ok value, first, rfl, nofun⟩
  | error reason =>
      replace rest := of_current rest
      split at rest
      · rename_i lasting
        rcases rest.of_bind with ⟨error, failed, rfl⟩ | ⟨_, _, thrown, -⟩
        · obtain ⟨⟨⟩, rfl⟩ := failed.of_throw
          refine .inl ⟨.error reason, first, rfl, ?_⟩
          rintro _ ⟨⟩
          simpa using lasting
        · cases thrown.of_throw.1
      · rename_i lost
        refine .inr ⟨reason, middle, first, by simpa using lost, ?_⟩
        rcases rest.of_bind with ⟨error, failed, rfl⟩ | ⟨_, renewed, opened, again⟩
        · exact .inl ⟨error, failed, rfl⟩
        · obtain ⟨inner, second, rfl⟩ := again.of_adaptExcept
          exact .inr ⟨renewed, inner, opened, second, rfl⟩

/-- What each attempt does and the reopening between them, both together do. -/
theorem always_persist {α : Type} {R : Link σ → Link σ → Prop} {wording : String → Error}
    {attempt : EStateM String (Link σ) α}
    (trans : ∀ {before middle after}, R before middle → R middle after → R before after)
    (reopens : Always R (reconnect (σ := σ))) (tries : Always R attempt) :
    Always R (persist wording attempt) := by
  intro before result after ended
  rcases of_persist ended with ⟨inner, tried, -⟩ | ⟨reason, middle, tried, -, next⟩
  · exact tries.of tried
  · have first : R before middle := tries.of tried
    rcases next with ⟨error, failed, -⟩ | ⟨renewed, inner, opened, again, -⟩
    · exact trans first (reopens.of failed)
    · exact trans (trans first (reopens.of opened)) (tries.of again)

theorem steady_persist {α : Type} {wording : String → Error} {attempt : EStateM String (Link σ) α}
    {before after : Link σ} {result : Except Error α}
    (keeps : ∀ {start inner final}, Ends attempt start inner final →
      final.connection = start.connection)
    (ended : Ends (persist wording attempt) before result after) : Steady before after := by
  have reopens : Always Steady (reconnect (σ := σ)) := fun _ _ _ opened => (of_reconnect opened).1
  have tries : Always Steady attempt := fun _ _ _ tried => ⟨by rw [keeps tried], by rw [keeps tried]⟩
  exact (always_persist .trans reopens tries).of ended

/-! Inside a transaction -/

/-- Inside a transaction there is no second attempt. -/
theorem of_persist_nested {α : Type} {wording : String → Error}
    {attempt : EStateM String (Link σ) α} {before after : Link σ} {result : Except Error α}
    (nested : 1 ≤ before.connection.level)
    (keeps : ∀ {start inner final}, Ends attempt start inner final →
      final.connection = start.connection)
    (ended : Ends (persist wording attempt) before result after) :
    ∃ inner, Ends attempt before inner after := by
  rcases of_persist ended with ⟨inner, tried, -⟩ | ⟨reason, middle, tried, lost, -⟩
  · exact ⟨inner, tried⟩
  · simp only [Connection.mayReconnect, keeps tried, Bool.and_eq_true, beq_iff_eq] at lost
    omega

structure Inside (session : Session) (link : Link σ) : Prop where
  nested : 1 ≤ link.connection.level
  write : link.connection.write = some session
  talking : link.connection.pretending = false

/-- Nothing was sent but the requests, in order, all to one session. -/
structure Talks (session : Session) (requests : List Request) (before after : Link σ) : Prop
    extends Steady before after where
  write : after.connection.write = before.connection.write
  asked : ∃ asked, after.events = before.events ++ asked ∧
    asked.map Event.call = requests.map (Call.answer session)

namespace Talks

variable {session : Session} {requests more : List Request} {before middle after : Link σ}

theorem refl (link : Link σ) : Talks session [] link link :=
  ⟨.refl link, rfl, [], by simp, by simp⟩

theorem trans (first : Talks session requests before middle)
    (second : Talks session more middle after) : Talks session (requests ++ more) before after := by
  obtain ⟨some, firstAsked, each⟩ := first.asked
  obtain ⟨others, secondAsked, other⟩ := second.asked
  refine ⟨first.toSteady.trans second.toSteady, second.write.trans first.write, some ++ others,
    ?_, ?_⟩
  · rw [secondAsked, firstAsked, List.append_assoc]
  · rw [List.map_append, List.map_append, each, other]

theorem inside (talks : Talks session requests before after) (inside : Inside session before) :
    Inside session after :=
  ⟨by rw [talks.level]; exact inside.nested, talks.write.trans inside.write,
    talks.pretending.trans inside.talking⟩

end Talks

/-- Inside a transaction a request goes to the session of the transaction, and only once. -/
theorem Inside.run {session : Session} {request : Request} {before after : Link σ}
    {result : Except Error request.Answer} (inside : Inside session before)
    (ended : Ends (Link.run request) before result after) :
    Talks session [request] before after := by
  have chosen : before.connection.session? request = some session := by
    unfold Connection.session?
    split
    · rw [if_neg (by have := inside.nested; omega)]
      exact inside.write
    · exact inside.write
  rcases of_run ended with ⟨pretending, -⟩ | ⟨-, sent, persisted, rfl⟩
  · cases inside.talking.symm.trans pretending
  · obtain ⟨reply, tried⟩ := of_persist_nested inside.nested kept_tryRequest persisted
    have kept := kept_tryRequest tried
    have logged := logs_noted sent result
    obtain ⟨refusal, recorded⟩ := of_tryRequest chosen tried
    exact ⟨⟨by rw [logged.level, kept], by rw [logged.pretending, kept]⟩,
      by rw [logged.write, kept], [⟨.answer session request, refusal⟩],
      (events_noted sent result).trans recorded, rfl⟩

/-- A request changes neither the depth nor the pretending, wherever it goes. -/
theorem steady_run {request : Request} {before after : Link σ}
    {result : Except Error request.Answer} (ended : Ends (Link.run request) before result after) :
    Steady before after ∧
      (before.connection.pretending = true → after.database = before.database) := by
  rcases of_run ended with ⟨-, -, rfl⟩ | ⟨talking, sent, persisted, rfl⟩
  · exact ⟨⟨rfl, rfl⟩, fun _ => rfl⟩
  · refine ⟨(steady_persist kept_tryRequest persisted).trans (logs_noted sent result).toSteady, ?_⟩
    rw [talking]
    exact nofun

end Link

end SqlToolkit
