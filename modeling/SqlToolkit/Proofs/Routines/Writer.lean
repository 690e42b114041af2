import SqlToolkit.Proofs.Routines.Sessions
/-!
The session for writing while a transaction is open: what leaves it in its place, and what puts
another there or closes it.
-/

namespace SqlToolkit

variable {σ α : Type}

theorem Ends.unique {ε : Type} {action : EStateM ε σ α} {before after other : σ}
    {result reply : Except ε α} (ended : Ends action before result after)
    (again : Ends action before reply other) : result = reply ∧ after = other := by
  have same := ended.ending_eq.symm.trans again.ending_eq
  exact ⟨congrArg Prod.fst same, congrArg Prod.snd same⟩

theorem Ends.of_ending {ε : Type} (action : EStateM ε σ α) (before : σ) :
    Ends action before (ending action before).1 (ending action before).2 := by
  obtain ⟨result, after, ended⟩ := Ends.exists action before
  rw [ended.ending_eq]
  exact ended

theorem Ends.isOk_iff {ε : Type} {action : EStateM ε σ Unit} {before : σ} :
    (ending action before).1.isOk = true ↔ ∃ after, Ends action before (.ok ()) after := by
  constructor
  · intro succeeds
    have ended := Ends.of_ending action before
    cases reply : (ending action before).1 with
    | ok _ => exact ⟨_, reply ▸ ended⟩
    | error error =>
        rw [reply] at succeeds
        cases succeeds
  · rintro ⟨after, ended⟩
    rw [ended.ending_eq]
    rfl

variable [Issuing σ]

/-- A call that closes the sessions, or puts new ones in their place. -/
def Act.Swaps (act : Act σ) : Prop :=
  act.operation = .disconnect ∨
    (act.operation = .reconnect ∧ ∃ after, Ends Link.reconnect act.before (.ok ()) after)

instance (act : Act σ) : Decidable act.Swaps :=
  decidable_of_iff (act.operation = .disconnect ∨
      (act.operation = .reconnect ∧ (ending Link.reconnect act.before).1.isOk = true))
    (or_congr_right (and_congr_right fun _ => Ends.isOk_iff))

namespace Link

variable {before middle after link : Link σ} {session : Session}

/-! Calls that leave the session -/

/-- The session for writing is the same, and no session is told to close. -/
structure Leaves (before after : Link σ) : Prop where
  write : after.connection.write = before.connection.write
  silent : Appends Event.Lasting before.events after.events

namespace Leaves

theorem of_database (write : after.connection.write = before.connection.write)
    (database : after.database = before.database) : Leaves before after :=
  ⟨write, .of_eq (congrArg Recording.events database)⟩

theorem refl (link : Link σ) : Leaves link link :=
  of_database rfl rfl

theorem trans (first : Leaves before middle) (second : Leaves middle after) :
    Leaves before after :=
  ⟨second.write.trans first.write, first.silent.trans second.silent⟩

theorem passes : Routine.Passes (Leaves (σ := σ)) :=
  ⟨refl, trans, fun _ _ _ _ => of_database rfl rfl⟩

end Leaves

theorem leaves_level (link : Link σ) (level : Nat) : Leaves link (link.atLevel level) :=
  .of_database rfl rfl

theorem leaves_tryControl {control : Control} (lasting : control ≠ .close) :
    Always Leaves (tryControl (σ := σ) control) := by
  intro before result after ended
  exact ⟨by rw [(of_tryControl ended).1], lasting_tryControl lasting ended⟩

theorem leaves_run {request : Request} {result : Except Error request.Answer}
    (nested : 1 ≤ before.connection.level) (ended : Ends (run request) before result after) :
    Leaves before after := by
  refine ⟨?_, lasting_run ended⟩
  rcases of_run ended with ⟨-, -, rfl⟩ | ⟨-, sent, persisted, rfl⟩
  · rfl
  · obtain ⟨reply, tried⟩ := of_persist_nested nested kept_tryRequest persisted
    rw [write_noted, kept_tryRequest tried]

theorem leaves_perform {operation : Operation} {reply : Except Error operation.Answer}
    (nested : 1 ≤ before.connection.level) (stays : ¬ (Act.mk operation before).Swaps)
    (ended : Ends operation.perform before reply after) : Leaves before after := by
  cases operation with
  | ask request => exact leaves_run nested ended
  | begin =>
      obtain ⟨-, rfl⟩ := of_begin_counted (.inl (Nat.one_le_iff_ne_zero.mp nested)) ended
      exact .of_database rfl rfl
  | commit =>
      exact (always_commit .refl .trans leaves_level (leaves_tryControl nofun)).of ended
  | rollback =>
      exact (always_rollback .trans leaves_level (leaves_tryControl nofun)).of ended
  | setLogging on =>
      obtain rfl := Operation.of_setLogging ended
      exact .of_database rfl rfl
  | flush =>
      obtain rfl := Operation.of_flush ended
      exact .of_database rfl rfl
  | setWrite session =>
      rcases of_setWrite ended with ⟨-, -, rfl⟩ | ⟨outside, -, -⟩
      · exact .refl _
      · omega
  | setRead session =>
      obtain rfl := Operation.of_setRead ended
      exact .of_database rfl rfl
  | reconnect =>
      obtain ⟨-, ⟨error, -, kept⟩ | ⟨_, _, rfl, -⟩⟩ := reconnect_cases ended
      · exact ⟨by rw [kept], lasting_reconnect ended⟩
      · exact absurd (.inr ⟨rfl, after, ended⟩) stays
  | disconnect => exact absurd (.inl rfl) stays

/-! Calls that lose the session -/

/-- Another session is in the place of one that was opened once. -/
structure Lost (session : Session) (link : Link σ) : Prop where
  write : link.connection.write ≠ some session
  issued : Issuing.Issued link.database session

theorem lost_of_swaps {operation : Operation} {reply : Except Error operation.Answer}
    (swaps : (Act.mk operation before).Swaps) (issued : Issuing.Issued before.database session)
    (ended : Ends operation.perform before reply after) : Lost session after := by
  refine ⟨?_, retains_perform ended session issued⟩
  rcases swaps with same | ⟨same, renewed, opened⟩
  · cases same
    obtain ⟨gone, -⟩ := of_disconnect ended
    rw [gone]
    exact nofun
  · cases same
    obtain ⟨rfl, rfl⟩ := Ends.unique ended opened
    obtain ⟨-, ⟨error, failed, -⟩ | ⟨write, read, -, replaced, new⟩⟩ := reconnect_cases opened
    · cases failed
    · rw [replaced]
      rintro ⟨⟩
      exact (new session (by simp)).1 issued

theorem lost_perform {operation : Operation} {reply : Except Error operation.Answer}
    (nested : 1 ≤ before.connection.level) (lost : Lost session before)
    (ended : Ends operation.perform before reply after) : Lost session after := by
  by_cases swaps : (Act.mk operation before).Swaps
  · exact lost_of_swaps swaps lost.issued ended
  · have leaves := leaves_perform nested swaps ended
    exact ⟨by rw [leaves.write]; exact lost.write, retains_perform ended session lost.issued⟩

/-! Runs -/

/-- The session is still the one for writing, and was not told to close. -/
structure KeepsOpen (session : Session) (before after : Link σ) : Prop where
  write : after.connection.write = some session
  silent : Appends (fun event => event.call ≠ .control session .close) before.events after.events

/-- As long as a transaction is open, a run keeps its session just if it neither disconnects nor
succeeds to reconnect. -/
theorem keepsOpen_iff {routine : Routine α} {result : Except Error α}
    (write : link.connection.write = some session)
    (issued : Issuing.Issued link.database session)
    (nested : ∀ act ∈ routine.acts link, 1 ≤ act.before.connection.level)
    (ended : Ends routine.perform link result after) :
    KeepsOpen session link after ↔ ∀ act ∈ routine.acts link, ¬ act.Swaps := by
  constructor
  · intro keeps act made swaps
    have retaining : ∀ act ∈ routine.acts link, act.Carries fun before after =>
        Retains Issuing.Issued before.database after.database :=
      fun _ _ _ _ called => retains_perform called
    -- A session that is lost does not come back, since none is opened twice.
    have losing : ∀ act ∈ routine.acts link, act.Carries fun before after =>
        Lost session before → Lost session after :=
      fun act made _ _ called lost => lost_perform (nested act made) lost called
    have retains : Routine.Passes fun before after : Link σ =>
        Retains Issuing.Issued before.database after.database :=
      ⟨fun _ _ issued => issued, .trans, fun _ _ _ _ _ issued => issued⟩
    have loses : Routine.Passes fun before after : Link σ =>
        Lost session before → Lost session after :=
      ⟨fun _ lost => lost, fun first second lost => second (first lost),
        fun _ _ _ _ lost => ⟨lost.write, lost.issued⟩⟩
    obtain ⟨reached, -⟩ := Routine.carries_through retains retaining ended made
    obtain ⟨-, reply, behind, called, onward⟩ := Routine.carries_through loses losing ended made
    have lost : Lost session behind := lost_of_swaps swaps (reached session issued) called
    exact (onward lost).write keeps.write
  · intro stays
    have leaving : ∀ act ∈ routine.acts link, act.Carries Leaves :=
      fun act made _ _ called => leaves_perform (nested act made) (stays act made) called
    have leaves : Leaves link after := Routine.carries Leaves.passes leaving ended
    exact ⟨leaves.write.trans write, leaves.silent.mono fun event other => other session⟩

end Link

end SqlToolkit
