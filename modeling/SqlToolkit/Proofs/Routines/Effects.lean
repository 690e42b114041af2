import SqlToolkit.Proofs.Routines.Basic
/-!
What single calls on a connection do, for those that are not about transactions alone.
-/

namespace SqlToolkit

/-- From one record to the other, only events of a kind were added. -/
def Appends (P : Event → Prop) (before after : List Event) : Prop :=
  ∃ sent, after = before ++ sent ∧ ∀ event ∈ sent, P event

namespace Appends

variable {P Q : Event → Prop} {before middle after : List Event}

theorem of_eq (same : after = before) : Appends P before after :=
  ⟨[], by rw [same, List.append_nil], by simp⟩

theorem single {event : Event} (added : after = before ++ [event]) (kind : P event) :
    Appends P before after :=
  ⟨[event], added, by simpa using kind⟩

theorem trans (first : Appends P before middle) (second : Appends P middle after) :
    Appends P before after := by
  obtain ⟨some, rfl, each⟩ := first
  obtain ⟨others, rfl, other⟩ := second
  refine ⟨some ++ others, List.append_assoc _ _ _, ?_⟩
  intro event member
  rcases List.mem_append.mp member with inFirst | inSecond
  · exact each event inFirst
  · exact other event inSecond

theorem mono (appends : Appends P before after) (implies : ∀ event, P event → Q event) :
    Appends Q before after := by
  obtain ⟨sent, added, each⟩ := appends
  exact ⟨sent, added, fun event member => implies event (each event member)⟩

end Appends

/-- The call tells no session to close. -/
def Event.Lasting (event : Event) : Prop :=
  ∀ session, event.call ≠ .control session .close

theorem Event.Connects.lasting {event : Event} (connects : event.Connects) : event.Lasting := by
  obtain ⟨config, role, call⟩ := connects
  intro session told
  rw [call] at told
  cases told

def Connection.sessions (connection : Connection) : List Session :=
  connection.write.toList ++ connection.read.toList

namespace Operation

variable {σ : Type} [Database σ] {before after : Link σ}

theorem of_setLogging {on : Bool} {reply : Except Error Unit}
    (ended : Ends (setLogging on).perform before reply after) :
    after = { before with connection := { before.connection with logging := on } } :=
  (Link.of_change (f := fun connection => { connection with logging := on }) ended).2

theorem of_flush {reply : Except Error Unit} (ended : Ends flush.perform before reply after) :
    after = { before with connection := { before.connection with log := [] } } :=
  (Link.of_change (f := fun connection => { connection with log := [] }) ended).2

theorem of_setRead {session : Option Session} {reply : Except Error Unit}
    (ended : Ends (setRead session).perform before reply after) :
    after = { before with connection := { before.connection with read := session } } :=
  (Link.of_change (f := fun connection => { connection with read := session }) ended).2

end Operation

namespace Link

variable {σ : Type}

theorem of_setWrite {session : Session} {before after : Link σ} {result : Except Error Unit}
    (ended : Ends (setWrite session) before result after) :
    (1 ≤ before.connection.level ∧ result = .error (.transactionActive before.connection.level) ∧
        after = before) ∨
      (before.connection.level = 0 ∧ result = .ok () ∧
        after = { before with connection := { before.connection with write := some session } }) := by
  unfold setWrite at ended
  have rest := of_current ended
  dsimp only at rest
  split at rest
  · rename_i nested
    rcases rest.of_bind with ⟨error, failed, rfl⟩ | ⟨_, _, thrown, -⟩
    · obtain ⟨same, rfl⟩ := failed.of_throw
      cases same
      exact .inl ⟨nested, rfl, rfl⟩
    · cases thrown.of_throw.1
  · rename_i outside
    obtain ⟨rfl, rfl⟩ := of_change rest
    exact .inr ⟨by omega, rfl, rfl⟩

variable [Recording σ]

/-! What is put on record -/

theorem appends_reconnect {before after : Link σ} {result : Except Error Unit}
    (ended : Ends reconnect before result after) : Appends Event.Connects before.events after.events :=
  (of_reconnect ended).2

/-- What is tried twice puts on record what each attempt does, and the new sessions between. -/
theorem appends_persist {α : Type} {P : Event → Prop} {wording : String → Error}
    {attempt : EStateM String (Link σ) α} {before after : Link σ} {result : Except Error α}
    (connects : ∀ event, event.Connects → P event)
    (tries : ∀ {start inner final}, Ends attempt start inner final →
      Appends P start.events final.events)
    (ended : Ends (persist wording attempt) before result after) :
    Appends P before.events after.events := by
  have reopens : Always (fun start final : Link σ => Appends P start.events final.events) reconnect :=
    fun _ _ _ opened => (appends_reconnect opened).mono connects
  exact (always_persist .trans reopens fun _ _ _ tried => tries tried).of ended

theorem appends_tryRequest {request : Request} {before after : Link σ}
    {result : Except String request.Answer} (ended : Ends (tryRequest request) before result after) :
    Appends (fun event => ∃ session, event.call = .answer session request)
      before.events after.events := by
  obtain ⟨sent, recorded, tries⟩ := tries_tryRequest ended
  cases tries with
  | unsent _ => exact .of_eq rfl
  | sent _ _ _ => exact .single recorded ⟨_, rfl⟩

theorem appends_tryControl {control : Control} {before after : Link σ}
    {result : Except String Unit} (ended : Ends (tryControl control) before result after) :
    Appends (fun event => ∃ session, before.connection.write = some session ∧
      event.call = .control session control) before.events after.events := by
  obtain ⟨-, ⟨-, silent, -⟩ | ⟨session, refusal, write, recorded, -⟩⟩ := of_tryControl ended
  · exact .of_eq silent
  · exact .single recorded ⟨session, write, rfl⟩

/-- A request is answered, or sessions are opened for it. -/
theorem appends_run {request : Request} {before after : Link σ}
    {result : Except Error request.Answer} (ended : Ends (run request) before result after) :
    Appends (fun event => event.Connects ∨ ∃ session, event.call = .answer session request)
      before.events after.events := by
  rcases of_run ended with ⟨-, -, rfl⟩ | ⟨-, sent, persisted, rfl⟩
  · exact .of_eq rfl
  · have asked : Appends (fun event => event.Connects ∨
        ∃ session, event.call = .answer session request) before.events sent.events :=
      appends_persist (fun event => .inl)
        (fun tried => (appends_tryRequest tried).mono fun event => .inr) persisted
    rwa [events_noted]

/-! Closing -/

theorem lasting_reconnect {before after : Link σ} {result : Except Error Unit}
    (ended : Ends reconnect before result after) :
    Appends Event.Lasting before.events after.events :=
  (appends_reconnect ended).mono fun _ => Event.Connects.lasting

theorem lasting_tryRequest {request : Request} {before after : Link σ}
    {result : Except String request.Answer} (ended : Ends (tryRequest request) before result after) :
    Appends Event.Lasting before.events after.events := by
  refine (appends_tryRequest ended).mono ?_
  rintro event ⟨session, call⟩ other told
  rw [call] at told
  cases told

theorem lasting_tryControl {control : Control} {before after : Link σ} {result : Except String Unit}
    (lasting : control ≠ .close) (ended : Ends (tryControl control) before result after) :
    Appends Event.Lasting before.events after.events := by
  refine (appends_tryControl ended).mono ?_
  rintro event ⟨session, -, call⟩ other told
  rw [call] at told
  cases told
  exact lasting rfl

theorem lasting_run {request : Request} {before after : Link σ}
    {result : Except Error request.Answer} (ended : Ends (run request) before result after) :
    Appends Event.Lasting before.events after.events := by
  refine (appends_run ended).mono ?_
  rintro event (connects | ⟨session, call⟩)
  · exact connects.lasting
  · intro other told
    rw [call] at told
    cases told

theorem of_closing {sessions : List Session} {before after : Link σ} {result : Except Error Unit}
    (ended : Ends (do
      for session in sessions do
        let _ ← outcome (ε := String) (onDatabase (Database.control session .close)))
      before result after) :
    result = .ok () ∧ after.connection = before.connection ∧
      ∃ closed, after.events = before.events ++ closed ∧
        closed.map Event.call = sessions.map fun session => .control session .close := by
  induction sessions generalizing before with
  | nil =>
      obtain ⟨rfl, rfl⟩ := ended.of_pure
      exact ⟨rfl, rfl, [], by simp, rfl⟩
  | cons session rest ih =>
      simp only [List.forIn_cons, bind_assoc] at ended
      obtain ⟨reply, middle, told, later⟩ := ended.of_outcome_bind
      obtain ⟨succeeds, kept, closed, recorded, calls⟩ := ih later
      obtain ⟨performed, still⟩ := of_onDatabase told
      obtain ⟨refusal, first, -⟩ := Recording.controls session .close performed
      refine ⟨succeeds, kept.trans still, ⟨.control session .close, refusal⟩ :: closed, ?_, ?_⟩
      · rw [recorded, show middle.events = _ from first, List.append_assoc]
        rfl
      · simp only [List.map_cons, calls]

/-- What is open is told to close, and is gone whatever the answer. -/
theorem of_disconnect {before after : Link σ} {result : Except Error Unit}
    (ended : Ends disconnect before result after) :
    after.connection = { before.connection with write := none, read := none } ∧
      ∃ closed, after.events = before.events ++ closed ∧
        closed.map Event.call =
          before.connection.sessions.map fun session => .control session .close := by
  unfold disconnect at ended
  exact (of_closing (of_change_bind (of_current ended))).2

theorem disconnect_succeeds {before after : Link σ} {result : Except Error Unit}
    (ended : Ends disconnect before result after) : result = .ok () := by
  unfold disconnect at ended
  exact (of_closing (of_change_bind (of_current ended))).1

end Link

end SqlToolkit
