import SqlToolkit.Proofs.Rehearsal.Blueprints
import SqlToolkit.Proofs.Routines.Pretending
/-!
Runs of programs on a connection: what one sends that ends well, and what one puts on record that is
only pretended.
-/

namespace SqlToolkit

variable {σ α β : Type}

/-! Statements among the calls -/

namespace Event

/-- The statement of a call that sends one. -/
def sent? (event : Event) : Option Statement :=
  match event.call with
  | .answer _ request => some request.statement
  | _ => none

/-- The statement of a call that sends one and is not refused. -/
def taken? (event : Event) : Option Statement :=
  if event.refusal.isSome then none else event.sent?

theorem sent?_of_taken? {event : Event} {statement : Statement}
    (taken : event.taken? = some statement) : event.sent? = some statement := by
  unfold taken? at taken
  split at taken
  · cases taken
  · exact taken

variable {events : List Event}

theorem sublist_sent (events : List Event) :
    (events.filterMap taken?).Sublist (events.filterMap sent?) := by
  induction events with
  | nil => exact .refl _
  | cons event rest ih =>
      cases taken : event.taken? with
      | none =>
          rw [List.filterMap_cons_none taken]
          cases sent : event.sent? with
          | none => rwa [List.filterMap_cons_none sent]
          | some statement =>
              rw [List.filterMap_cons_some sent]
              exact ih.cons statement
      | some statement =>
          rw [List.filterMap_cons_some taken, List.filterMap_cons_some (sent?_of_taken? taken)]
          exact ih.cons_cons statement

/-- All that was sent was taken just if none of it was refused. -/
theorem taken_eq_sent_iff : events.filterMap taken? = events.filterMap sent? ↔
    ∀ event ∈ events, event.sent?.isSome → event.refusal = none := by
  induction events with
  | nil => simp
  | cons event rest ih =>
      cases sent : event.sent? with
      | none =>
          have untaken : event.taken? = none := by simp [taken?, sent]
          rw [List.filterMap_cons_none untaken, List.filterMap_cons_none sent, ih]
          simp [sent]
      | some statement =>
          rw [List.filterMap_cons_some sent]
          cases refused : event.refusal with
          | none =>
              have taken : event.taken? = some statement := by simp [taken?, sent, refused]
              rw [List.filterMap_cons_some taken]
              simp [ih, refused]
          | some reason =>
              have untaken : event.taken? = none := by simp [taken?, refused]
              rw [List.filterMap_cons_none untaken]
              constructor
              · intro same
                have shorter := (sublist_sent rest).length_le
                rw [same] at shorter
                simp only [List.length_cons] at shorter
                omega
              · intro none
                have := none event List.mem_cons_self (by simp [sent])
                rw [refused] at this
                cases this

end Event

namespace Link

theorem perform_bind [Database σ] (program : Program α) (f : α → Program β) :
    perform (σ := σ) (program >>= f) = perform program >>= fun value => perform (f value) := by
  induction program with
  | result value => rfl
  | failure error => rfl
  | attached next ih => exact ih
  | send request next ih =>
      have step : perform (σ := σ) (Program.send request next >>= f) =
          run request >>= fun answer => perform (next answer >>= f) := rfl
      rw [step]
      simp only [ih]
      exact (bind_assoc _ _ _).symm

/-! Pretended runs -/

/-- Pretending, a program goes as it is rehearsed, and puts its statements on record. -/
theorem of_perform_pretending [Database σ] {program : Program α} {before after : Link σ}
    {result : Except Error α} (pretending : before.connection.pretending = true)
    (ended : Ends (perform program) before result after) :
    result = program.rehearsed.result ∧
      after.connection.log =
        before.connection.log ++ program.rehearsed.statements.map Statement.unsent := by
  induction program generalizing before with
  | result value =>
      obtain ⟨rfl, rfl⟩ := ended.of_pure
      exact ⟨rfl, by simp [Program.rehearsed]⟩
  | failure error =>
      obtain ⟨rfl, rfl⟩ := ended.of_throw
      exact ⟨rfl, by simp [Program.rehearsed]⟩
  | attached next ih => exact ih pretending ended
  | send request next ih =>
      rcases ended.of_bind with ⟨error, failed, -⟩ | ⟨answer, middle, ran, rest⟩
      · cases (of_run_pretending pretending failed).1
      · obtain ⟨same, rfl⟩ := of_run_pretending pretending ran
        cases same
        let logging : Link σ := { before with
          connection := before.connection.withLogged request.statement false }
        have still : logging.connection.pretending = true := pretending
        obtain ⟨later, log⟩ := @ih request.idleAnswer logging still rest
        have logged : logging.connection.log =
            before.connection.log ++ [request.statement.unsent] := rfl
        refine ⟨later, ?_⟩
        rw [log, logged]
        simp [Program.rehearsed]

theorem of_pretend_perform [Database σ] {program : Program α} {before after : Link σ}
    {result : Except Error (List Logged)}
    (ended : Ends (pretend (perform program)) before result after) :
    result = program.rehearsed.result.map fun _ =>
      program.rehearsed.statements.map Statement.unsent := by
  obtain ⟨inner, final, performed, rfl, -⟩ := of_pretend ended
  have entered : before.pretended.connection.pretending = true := rfl
  obtain ⟨rfl, log⟩ := of_perform_pretending entered performed
  rw [log]
  rfl

/-! Runs that send -/

variable [Recording σ] {before middle after : Link σ} {statements more : List Statement}

/-- These statements were sent and taken, and no others. -/
structure Takes (statements : List Statement) (before after : Link σ) : Prop
    extends Steady before after where
  record : ∃ events, after.events = before.events ++ events ∧
    events.filterMap Event.taken? = statements

namespace Takes

theorem refl (link : Link σ) : Takes [] link link :=
  ⟨.refl link, [], by simp, rfl⟩

theorem trans (first : Takes statements before middle) (second : Takes more middle after) :
    Takes (statements ++ more) before after := by
  obtain ⟨events, added, taken⟩ := first.record
  obtain ⟨others, addedToo, takenToo⟩ := second.record
  refine ⟨first.toSteady.trans second.toSteady, events ++ others, ?_, ?_⟩
  · rw [addedToo, added, List.append_assoc]
  · rw [List.filterMap_append, taken, takenToo]

end Takes

theorem takes_logs (logs : Logs before after) : Takes [] before after :=
  ⟨logs.toSteady, [], by rw [List.append_nil]; exact congrArg Recording.events logs.database, rfl⟩

theorem takes_reconnect {result : Except Error Unit} (ended : Ends reconnect before result after) :
    Takes [] before after := by
  obtain ⟨steady, opened, added, connects⟩ := of_reconnect ended
  refine ⟨steady, opened, added, List.filterMap_eq_nil_iff.mpr fun event member => ?_⟩
  obtain ⟨config, role, call⟩ := connects event member
  simp [Event.taken?, Event.sent?, call]

theorem takes_tryRequest {request : Request} {result : Except String request.Answer}
    (ended : Ends (tryRequest request) before result after) :
    (∃ answer, result = .ok answer ∧ Takes [request.statement] before after) ∨
      ∃ reason, result = .error reason ∧ Takes [] before after := by
  obtain ⟨sent, recorded, tries⟩ := tries_tryRequest ended
  cases tries with
  | unsent _ => exact .inr ⟨_, rfl, .refl _⟩
  | @sent session _ refusal _ _ _ accepted =>
      cases result with
      | ok answer =>
          obtain rfl : refusal = none := accepted.mpr ⟨answer, rfl⟩
          exact .inl ⟨answer, rfl, ⟨rfl, rfl⟩, _, recorded, rfl⟩
      | error reason =>
          have refused : refusal.isSome := by
            cases refusal with
            | none =>
                obtain ⟨_, same⟩ := accepted.mp rfl
                cases same
            | some words => rfl
          exact .inr ⟨reason, rfl, ⟨rfl, rfl⟩, _, recorded, by simp [Event.taken?, refused]⟩

theorem takes_persist {request : Request} {wording : String → Error} {answer : request.Answer}
    (ended : Ends (persist wording (tryRequest request)) before (.ok answer) after) :
    Takes [request.statement] before after := by
  have takes_ok {start final : Link σ} {inner : Except String request.Answer}
      (tried : Ends (tryRequest request) start inner final)
      (succeeds : Except.ok answer = inner.mapError wording) :
      Takes [request.statement] start final := by
    rcases takes_tryRequest tried with ⟨_, -, takes⟩ | ⟨reason, rfl, -⟩
    · exact takes
    · cases succeeds
  rcases of_persist ended with ⟨inner, tried, same, -⟩ | ⟨reason, middle, tried, -, next⟩
  · exact takes_ok tried same
  · -- The first attempt found the session lost and counts for nothing; the second one is taken.
    rcases next with ⟨error, -, fails⟩ | ⟨renewed, inner, opened, again, same⟩
    · cases fails
    · rcases takes_tryRequest tried with ⟨_, succeeds, -⟩ | ⟨_, -, refused⟩
      · cases succeeds
      · exact (refused.trans (takes_reconnect opened)).trans (takes_ok again same)

/-- A request that succeeds is taken once, even if its session was lost at first. -/
theorem takes_run {request : Request} {answer : request.Answer}
    (talking : before.connection.pretending = false)
    (ended : Ends (run request) before (.ok answer) after) :
    Takes [request.statement] before after := by
  rcases of_run ended with ⟨pretending, -⟩ | ⟨-, sent, persisted, rfl⟩
  · cases talking.symm.trans pretending
  · exact (takes_persist persisted).trans (takes_logs (logs_noted sent _))

/-- A program that ends well has completed, and what it asked is what was taken. -/
theorem completes_of_perform {program : Program α} {value : α}
    (talking : before.connection.pretending = false)
    (ended : Ends (perform program) before (.ok value) after) :
    ∃ statements, program.Completes statements value ∧ Takes statements before after := by
  induction program generalizing before with
  | result =>
      obtain ⟨same, rfl⟩ := ended.of_pure
      cases same
      exact ⟨[], .result, .refl _⟩
  | failure error => cases ended.of_throw.1
  | attached next ih =>
      obtain ⟨statements, completes, takes⟩ := ih talking ended
      exact ⟨statements, .attached completes, takes⟩
  | send request next ih =>
      rcases ended.of_bind with ⟨error, -, fails⟩ | ⟨answer, middle, answered, rest⟩
      · cases fails
      · have first : Takes [request.statement] before middle := takes_run talking answered
        obtain ⟨statements, completes, later⟩ :=
          ih answer (first.pretending.trans talking) rest
        exact ⟨_, .send answer completes, first.trans later⟩

theorem ends_perform_bind {program : Program α} {f : α → Program β} {first : α}
    {result : Except Error β} (begins : Ends (perform program) before (.ok first) middle)
    (goesOn : Ends (perform (f first)) middle result after) :
    Ends (perform (program >>= f)) before result after := by
  have begins : perform program before = .ok first middle := begins
  rw [perform_bind]
  unfold Ends at goesOn ⊢
  simp only [bind, EStateM.bind, begins]
  exact goesOn

theorem of_perform_bind {program : Program α} {f : α → Program β} {value : β}
    (ended : Ends (perform (program >>= f)) before (.ok value) after) :
    ∃ first middle, Ends (perform program) before (.ok first) middle ∧
      Ends (perform (f first)) middle (.ok value) after := by
  rw [perform_bind] at ended
  rcases ended.of_bind with ⟨error, -, fails⟩ | done
  · cases fails
  · exact done

end Link

end SqlToolkit
