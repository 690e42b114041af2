import SqlToolkit.Proofs.Routines.Sessions
/-!
How a request is served: it is tried on the session that is open, and once more on new sessions if
the database tells that the first one is lost.
-/

namespace SqlToolkit

theorem Text.contains_iff {needle text : List Char} :
    Text.contains needle text = true ↔ needle <:+: text := by
  induction text with
  | nil => simp [Text.contains]
  | cons c rest ih =>
      rw [Text.contains, Bool.or_eq_true, List.isPrefixOf_iff_prefix, ih, List.infix_cons_iff]

namespace Connection

variable {connection : Connection} {reason : String}

/-- One of the configured texts for lost sessions stands in the words, in any case. -/
def Recognises (connection : Connection) (reason : String) : Prop :=
  ∃ message ∈ connection.lostMessages, (Text.lower message).toList <:+: (Text.lower reason).toList

/-- The words tell that the session is lost, and there is a way to a new one. -/
structure Renewable (connection : Connection) (reason : String) : Prop where
  reconnects : connection.reconnects = true
  outside : connection.level = 0
  lost : connection.Recognises reason

theorem isLost_iff : connection.isLost reason = true ↔ connection.Recognises reason := by
  simp only [isLost, List.any_eq_true, Text.contains_iff, Recognises]

instance : Decidable (connection.Recognises reason) :=
  decidable_of_iff _ isLost_iff

theorem mayReconnect_iff : connection.mayReconnect reason = true ↔ connection.Renewable reason := by
  rw [mayReconnect, Bool.and_eq_true, Bool.and_eq_true, beq_iff_eq, isLost_iff]
  constructor
  · rintro ⟨⟨reconnects, outside⟩, lost⟩
    exact ⟨reconnects, outside, lost⟩
  · intro renewable
    exact ⟨⟨renewable.reconnects, renewable.outside⟩, renewable.lost⟩

end Connection

namespace Link

variable {σ : Type} {before middle after : Link σ} {request : Request}

/-- The same connection, but for its sessions and the depth of its transactions. -/
def Rewired (before after : Link σ) : Prop :=
  ∃ write read level, after.connection = { before.connection with write, read, level }

namespace Rewired

theorem of_eq (same : after.connection = before.connection) : Rewired before after :=
  ⟨before.connection.write, before.connection.read, before.connection.level, same⟩

theorem refl (link : Link σ) : Rewired link link :=
  of_eq rfl

theorem trans (first : Rewired before middle) (second : Rewired middle after) :
    Rewired before after := by
  obtain ⟨_, _, _, same⟩ := first
  obtain ⟨write, read, level, again⟩ := second
  exact ⟨write, read, level, by rw [again, same]⟩

end Rewired

theorem rewired_level (link : Link σ) (level : Nat) : Rewired link (link.atLevel level) :=
  ⟨_, _, _, rfl⟩

variable [Recording σ]

/-! Requests -/

/-- A request is served at the first attempt or at the second, with one reopening between them; or
the sessions that it lost do not open again. The words of the last attempt are told with the
statement. -/
inductive Serves (request : Request) (before : Link σ) :
    Except Error request.Answer → List Event → Link σ → Prop
  | once {reply : Except String request.Answer} {sent : List Event} {after : Link σ}
      (tried : Tries request before reply sent after)
      (final : ∀ reason, reply = .error reason → ¬ before.connection.Renewable reason) :
      Serves request before (reply.mapError (Error.query request.statement)) sent after
  | lost {reason : String} {error : Error} {sent opened : List Event} {middle after : Link σ}
      (tried : Tries request before (.error reason) sent middle)
      (renewable : before.connection.Renewable reason)
      (reopening : Reopens middle (.error error) opened after) :
      Serves request before (.error error) (sent ++ opened) after
  | again {reason : String} {reply : Except String request.Answer}
      {sent opened repeated : List Event} {middle renewed after : Link σ}
      (tried : Tries request before (.error reason) sent middle)
      (renewable : before.connection.Renewable reason)
      (reopening : Reopens middle (.ok ()) opened renewed)
      (retried : Tries request renewed reply repeated after) :
      Serves request before (reply.mapError (Error.query request.statement))
        (sent ++ opened ++ repeated) after

theorem serves_persist {result : Except Error request.Answer}
    (ended : Ends (persist (Error.query request.statement) (tryRequest request)) before result after) :
    ∃ sent, after.events = before.events ++ sent ∧ Serves request before result sent after := by
  rcases of_persist ended with ⟨reply, tried, rfl, final⟩ | ⟨reason, middle, tried, lost, next⟩
  · obtain ⟨sent, recorded, tries⟩ := tries_tryRequest tried
    refine ⟨sent, recorded, .once tries fun reason failed renewable => ?_⟩
    have lasting := final reason failed
    rw [tries.connection, Connection.mayReconnect_iff.mpr renewable] at lasting
    cases lasting
  · obtain ⟨sent, recorded, tries⟩ := tries_tryRequest tried
    rw [tries.connection] at lost
    have renewable := Connection.mayReconnect_iff.mp lost
    rcases next with ⟨error, failed, rfl⟩ | ⟨renewed, reply, opened, repeated, rfl⟩
    · obtain ⟨opened, more, reopens⟩ := reopens_reconnect failed
      refine ⟨sent ++ opened, ?_, .lost tries renewable reopens⟩
      rw [more, recorded, List.append_assoc]
    · obtain ⟨opened, more, reopens⟩ := reopens_reconnect opened
      obtain ⟨last, rest, retries⟩ := tries_tryRequest repeated
      refine ⟨sent ++ opened ++ last, ?_, .again tries renewable reopens retries⟩
      rw [rest, more, recorded]
      simp only [List.append_assoc]

/-! What is served leaves the connection as it is -/

theorem Reopens.rewired {result : Except Error Unit} {opened : List Event}
    (reopens : Reopens before result opened after) : Rewired before after := by
  cases reopens with
  | renewed opening calls => exact ⟨_, _, _, rfl⟩
  | kept opening calls => exact .of_eq rfl
  | unable lasting => exact .refl _

theorem Serves.rewired {result : Except Error request.Answer} {sent : List Event}
    (serves : Serves request before result sent after) : Rewired before after := by
  cases serves with
  | once tried final => exact .of_eq tried.connection
  | lost tried renewable reopening => exact .trans (.of_eq tried.connection) reopening.rewired
  | again tried renewable reopening retried =>
      exact .trans (.of_eq tried.connection)
        (.trans reopening.rewired (.of_eq retried.connection))

theorem rewired_tryControl (control : Control) : Always Rewired (tryControl (σ := σ) control) :=
  fun _ _ _ tried => .of_eq (of_tryControl tried).1

theorem rewired_reconnect : Always Rewired (reconnect (σ := σ)) := by
  intro before result after ended
  obtain ⟨opened, -, reopens⟩ := reopens_reconnect ended
  exact reopens.rewired

theorem rewired_begin : Always Rewired (begin (σ := σ)) :=
  always_begin .trans rewired_level rewired_reconnect (rewired_tryControl .begin)

theorem rewired_commit : Always Rewired (commit (σ := σ)) :=
  always_commit .refl .trans rewired_level (rewired_tryControl .commit)

theorem rewired_rollback : Always Rewired (rollback (σ := σ)) :=
  always_rollback .trans rewired_level (rewired_tryControl .rollback)

end Link

end SqlToolkit
