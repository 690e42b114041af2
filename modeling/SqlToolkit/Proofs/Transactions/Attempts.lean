import SqlToolkit.Connection.Link
import SqlToolkit.Proofs.Transactions.Recording
/-!
What a connection asks of its database: the sessions that it opens, and the session on which a
request or a control is tried. Each is taken apart here, with the calls that it leaves in the record.
-/

namespace SqlToolkit

theorem Connection.of_make {name : String} {config : ConnectionConfig} {write : Session}
    {read : Option Session} {connection : Connection}
    (made : Connection.make name config write read = .ok connection) :
    ∃ vendor marker, connection =
      { name, config, vendor, marker, write := some write, read, logging := config.logQueries } := by
  unfold Connection.make at made
  cases vendor : config.vendor with
  | error error =>
      rw [vendor] at made
      cases made
  | ok chosen =>
      rw [vendor] at made
      cases required : write.requiredMarker with
      | some marker =>
          rw [required] at made
          cases made
          exact ⟨chosen, marker, rfl⟩
      | none =>
          rw [required] at made
          cases marker : config.marker with
          | error error =>
              rw [marker] at made
              cases made
          | ok found =>
              rw [marker] at made
              cases made
              exact ⟨chosen, found, rfl⟩

/-- A connection is made of the sessions that its configuration opens. -/
theorem Connection.of_connect {σ : Type} [Database σ] {name : String} {config : ConnectionConfig}
    {before after : σ} {result : Except Error Connection}
    (ended : Ends (Connection.connect name config) before result after) :
    ∃ reply, Ends (openSessions config) before reply after ∧
      ((∃ error, result = .error error) ∨
        ∃ write read vendor marker, reply = .ok (write, read) ∧
          result = .ok
            { name, config, vendor, marker, write := some write, read,
              logging := config.logQueries, reconnects := true }) := by
  unfold Connection.connect at ended
  rcases ended.of_bind with ⟨error, failed, rfl⟩ | ⟨⟨write, read⟩, opening, opened, rest⟩
  · exact ⟨_, failed, .inl ⟨error, rfl⟩⟩
  dsimp only at rest
  cases made : Connection.make name config write read with
  | error error =>
      rw [made] at rest
      obtain ⟨rfl, rfl⟩ := rest.of_throw
      exact ⟨_, opened, .inl ⟨error, rfl⟩⟩
  | ok connection =>
      rw [made] at rest
      obtain ⟨rfl, rfl⟩ := rest.of_pure
      obtain ⟨vendor, marker, rfl⟩ := Connection.of_make made
      exact ⟨_, opened, .inr ⟨write, read, vendor, marker, rfl, rfl⟩⟩

/-- The sessions of a configuration, in the order in which they are opened. -/
def ConnectionConfig.roles (config : ConnectionConfig) : List Role :=
  .write :: if config.hasReplicas then [.read] else []

/-- The calls by which sessions are opened: one for each, or as many as are accepted and one that
is not. -/
inductive ConnectionConfig.Opened (config : ConnectionConfig) :
    Except Error (Session × Option Session) → List Event → Prop
  | all {write : Session} {read : Option Session} (complete : read.isSome = config.hasReplicas) :
      config.Opened (.ok (write, read)) (config.roles.map fun role => ⟨.connect config role, none⟩)
  | part {error : Error} (opened : List Role) (role : Role) (later : List Role) {reason : String}
      (order : config.roles = opened ++ role :: later) :
      config.Opened (.error error)
        ((opened.map fun role => ⟨.connect config role, none⟩) ++
          [⟨.connect config role, some reason⟩])

namespace Link

variable {σ : Type} {before after : Link σ}

theorem of_onDatabase {ε α : Type} {action : EStateM ε σ α} {before after : Link σ}
    {result : Except ε α} (ended : Ends (onDatabase action) before result after) :
    Ends action before.database result after.database ∧
      after.connection = before.connection := by
  unfold Ends onDatabase at ended
  cases performed : action before.database with
  | ok value database =>
      simp only [performed] at ended
      cases result <;> cases ended
      exact ⟨performed, rfl⟩
  | error error database =>
      simp only [performed] at ended
      cases result <;> cases ended
      exact ⟨performed, rfl⟩

theorem of_current {β : Type} {next : Connection → Action σ β} {before after : Link σ}
    {result : Except Error β} (ended : Ends (current >>= next) before result after) :
    Ends (next before.connection) before result after :=
  ended

theorem of_change {f : Connection → Connection} {before after : Link σ} {result : Except Error Unit}
    (ended : Ends (change f) before result after) :
    result = .ok () ∧ after = { before with connection := f before.connection } := by
  cases result <;> cases ended
  exact ⟨rfl, rfl⟩

theorem of_change_bind {β : Type} {f : Connection → Connection} {next : Unit → Action σ β}
    {before after : Link σ} {result : Except Error β}
    (ended : Ends (change f >>= next) before result after) :
    Ends (next ()) { before with connection := f before.connection } result after :=
  ended

/-- What is tried on a session comes to nothing if there is none. -/
theorem of_onSession {α : Type} (pick : Connection → Option Session)
    {action : Session → EStateM String σ α} {result : Except String α}
    (ended : Ends (fun link : Link σ => match pick link.connection with
      | none => .error missingSession link
      | some session => onDatabase (action session) link) before result after) :
    (pick before.connection = none ∧ result = .error missingSession ∧ after = before) ∨
      ∃ session, pick before.connection = some session ∧
        Ends (action session) before.database result after.database ∧
        after.connection = before.connection := by
  unfold Ends at ended
  cases chosen : pick before.connection with
  | none =>
      simp only [chosen] at ended
      cases result <;> cases ended
      exact .inl ⟨rfl, rfl, rfl⟩
  | some session =>
      simp only [chosen] at ended
      have performed : Ends (onDatabase (action session)) before result after := by
        cases result <;> exact ended
      exact .inr ⟨session, rfl, of_onDatabase performed⟩

variable [Recording σ]

def events (link : Link σ) : List Event :=
  Recording.events link.database

/-! Opening sessions -/

theorem opened_openSessions {config : ConnectionConfig} {before after : σ}
    {result : Except Error (Session × Option Session)}
    (ended : Ends (openSessions config) before result after) :
    ∃ opened, Recording.events after = Recording.events before ++ opened ∧
      config.Opened result opened := by
  unfold openSessions at ended
  rcases ended.of_bind with ⟨error, failed, rfl⟩ | ⟨write, middle, first, rest⟩
  · obtain ⟨refusal, recorded, accepted⟩ := Recording.connects config .write failed
    cases refusal with
    | none => simp at accepted
    | some reason => exact ⟨_, recorded, .part [] .write _ rfl⟩
  · obtain ⟨refusal, recorded, accepted⟩ := Recording.connects config .write first
    obtain rfl := accepted.mpr ⟨write, rfl⟩
    split at rest
    · rename_i replicas
      have roles : config.roles = [.write, .read] := by simp [ConnectionConfig.roles, replicas]
      rcases rest.of_bind with ⟨error, failed, rfl⟩ | ⟨read, last, second, done⟩
      · obtain ⟨refusal, more, accepted⟩ := Recording.connects config .read failed
        cases refusal with
        | none => simp at accepted
        | some reason =>
            refine ⟨_, by rw [more, recorded, List.append_assoc], ?_⟩
            exact .part [.write] .read [] roles
      · obtain ⟨rfl, rfl⟩ := done.of_pure
        obtain ⟨refusal, more, accepted⟩ := Recording.connects config .read second
        obtain rfl := accepted.mpr ⟨read, rfl⟩
        have whole : config.Opened (.ok (write, some read)) _ := .all (by simp [replicas])
        rw [roles] at whole
        refine ⟨_, ?_, whole⟩
        rw [more, recorded, List.append_assoc]
        rfl
    · rename_i single
      obtain ⟨rfl, rfl⟩ := rest.of_pure
      have roles : config.roles = [.write] := by simp [ConnectionConfig.roles, single]
      have whole : config.Opened (.ok (write, none)) _ := .all (by simp [single])
      rw [roles] at whole
      exact ⟨_, recorded, whole⟩

/-- A connection goes over to sessions that were just opened, all of them at once, or it stays as
it is. -/
inductive Reopens (before : Link σ) : Except Error Unit → List Event → Link σ → Prop
  | renewed {write : Session} {read : Option Session} {opened : List Event} {database : σ}
      (opening : Ends (openSessions before.connection.config) before.database (.ok (write, read))
        database)
      (calls : before.connection.config.Opened (.ok (write, read)) opened) :
      Reopens before (.ok ()) opened
        { connection := { before.connection with write := some write, read }, database }
  | kept {error : Error} {opened : List Event} {database : σ}
      (opening : Ends (openSessions before.connection.config) before.database (.error error) database)
      (calls : before.connection.config.Opened (.error error) opened) :
      Reopens before (.error error) opened { before with database }
  | unable (lasting : before.connection.reconnects = false) :
      Reopens before (.error (.noReconnector before.connection.name)) [] before

theorem reopens_reconnect {result : Except Error Unit} (ended : Ends reconnect before result after) :
    ∃ opened, after.events = before.events ++ opened ∧ Reopens before result opened after := by
  unfold reconnect at ended
  have rest := of_current ended
  split at rest
  · rename_i lasting
    rcases rest.of_bind with ⟨error, failed, rfl⟩ | ⟨_, _, thrown, -⟩
    · obtain ⟨⟨⟩, rfl⟩ := failed.of_throw
      exact ⟨[], (List.append_nil _).symm, .unable (by simpa using lasting)⟩
    · cases thrown.of_throw.1
  · rcases rest.of_bind with ⟨error, failed, rfl⟩ | ⟨⟨write, read⟩, renewed, opened, rest⟩
    · obtain ⟨performed, kept⟩ := of_onDatabase failed
      obtain ⟨sent, recorded, calls⟩ := opened_openSessions performed
      obtain ⟨connection, database⟩ := after
      obtain rfl : connection = before.connection := kept
      exact ⟨sent, recorded, .kept performed calls⟩
    · obtain ⟨performed, kept⟩ := of_onDatabase opened
      obtain ⟨sent, recorded, calls⟩ := opened_openSessions performed
      obtain ⟨rfl, rfl⟩ := of_change rest
      obtain ⟨connection, database⟩ := renewed
      obtain rfl : connection = before.connection := kept
      exact ⟨sent, recorded, .renewed performed calls⟩

/-! Trying a control, and trying a request -/

/-- A control reaches the session for writing, if there is one. -/
theorem of_tryControl {control : Control} {result : Except String Unit}
    (ended : Ends (tryControl control) before result after) :
    after.connection = before.connection ∧
      ((before.connection.write = none ∧ after.events = before.events ∧ result ≠ .ok ()) ∨
        ∃ session refusal, before.connection.write = some session ∧
          after.events = before.events ++ [⟨.control session control, refusal⟩] ∧
          (refusal = none ↔ result = .ok ())) := by
  rcases of_onSession (·.write) ended with ⟨missing, rfl, rfl⟩ | ⟨session, write, performed, kept⟩
  · exact ⟨rfl, .inl ⟨missing, rfl, nofun⟩⟩
  · obtain ⟨refusal, recorded, accepted⟩ := Recording.controls session control performed
    refine ⟨kept, .inr ⟨session, refusal, write, recorded, ?_⟩⟩
    exact accepted.trans ⟨fun ⟨(), same⟩ => same, fun same => ⟨(), same⟩⟩

/-- A request is tried once: it goes to the session that is due, or nowhere if there is none. -/
inductive Tries (request : Request) (before : Link σ) :
    Except String request.Answer → List Event → Link σ → Prop
  | unsent (missing : before.connection.session? request = none) :
      Tries request before (.error missingSession) [] before
  | sent {session : Session} {reply : Except String request.Answer} {refusal : Option String}
      {database : σ} (chosen : before.connection.session? request = some session)
      (answered : Ends (Database.answer session request) before.database reply database)
      (accepted : refusal = none ↔ ∃ answer, reply = .ok answer) :
      Tries request before reply [⟨.answer session request, refusal⟩] { before with database }

theorem tries_tryRequest {request : Request} {reply : Except String request.Answer}
    (ended : Ends (tryRequest request) before reply after) :
    ∃ sent, after.events = before.events ++ sent ∧ Tries request before reply sent after := by
  rcases of_onSession (·.session? request) ended with
    ⟨missing, rfl, rfl⟩ | ⟨session, chosen, answered, kept⟩
  · exact ⟨[], (List.append_nil _).symm, .unsent missing⟩
  · obtain ⟨refusal, recorded, accepted⟩ := Recording.answers session request answered
    obtain ⟨connection, database⟩ := after
    obtain rfl : connection = before.connection := kept
    exact ⟨_, recorded, .sent chosen answered accepted⟩

theorem Tries.connection {request : Request} {reply : Except String request.Answer} {sent : List Event}
    (tries : Tries request before reply sent after) : after.connection = before.connection := by
  cases tries <;> rfl

theorem kept_tryRequest {request : Request} {result : Except String request.Answer}
    (ended : Ends (tryRequest request) before result after) :
    after.connection = before.connection := by
  obtain ⟨_, -, tries⟩ := tries_tryRequest ended
  exact tries.connection

theorem of_tryRequest {request : Request} {session : Session} {result : Except String request.Answer}
    (chosen : before.connection.session? request = some session)
    (ended : Ends (tryRequest request) before result after) :
    ∃ refusal, after.events = before.events ++ [⟨.answer session request, refusal⟩] := by
  obtain ⟨sent, recorded, tries⟩ := tries_tryRequest ended
  cases tries with
  | unsent missing => simp [missing] at chosen
  | sent other _ _ =>
      obtain rfl := Option.some.inj (chosen.symm.trans other)
      exact ⟨_, recorded⟩

end Link

end SqlToolkit
