import SqlToolkit.Proofs.Routines.Directives
import SqlToolkit.Proofs.Routines.Pretending
/-!
What leaves a database as it is: to open and to close sessions, and to read. A routine that is only
pretended does nothing else, whatever its calls are.
-/

namespace SqlToolkit

/-- The call opens or closes a session, or reads. -/
def Event.Harmless (event : Event) : Prop :=
  match event.call with
  | .connect _ _ | .answer _ (.fetch _ _) | .control _ .close => True
  | .answer _ (.execute _) | .answer _ (.unprepared _) => False
  | .control _ .begin | .control _ .commit | .control _ .rollback => False

instance : DecidablePred Event.Harmless
  | ⟨.connect _ _, _⟩ | ⟨.answer _ (.fetch _ _), _⟩ | ⟨.control _ .close, _⟩ => isTrue trivial
  | ⟨.answer _ (.execute _), _⟩ | ⟨.answer _ (.unprepared _), _⟩ => isFalse id
  | ⟨.control _ .begin, _⟩ | ⟨.control _ .commit, _⟩ | ⟨.control _ .rollback, _⟩ => isFalse id

theorem Event.Connects.harmless {event : Event} (connects : event.Connects) : event.Harmless := by
  obtain ⟨config, role, call⟩ := connects
  simp [Event.Harmless, call]

/-- Nothing but harmless calls go on record from one state to the other. -/
def Harmlessly {σ : Type} (events : σ → List Event) (before after : σ) : Prop :=
  Appends Event.Harmless (events before) (events after)

namespace Harmlessly

variable {σ : Type} {events : σ → List Event} {before middle after : σ}

theorem of_eq (same : events after = events before) : Harmlessly events before after :=
  Appends.of_eq same

theorem refl (state : σ) : Harmlessly events state state :=
  of_eq rfl

theorem iff_of_empty (empty : events before = []) :
    Harmlessly events before after ↔ ∀ event ∈ events after, event.Harmless := by
  rw [Harmlessly, empty]
  exact ⟨fun ⟨_, same, harmless⟩ => same ▸ harmless, fun harmless => ⟨_, rfl, harmless⟩⟩

theorem trans (first : Harmlessly events before middle) (second : Harmlessly events middle after) :
    Harmlessly events before after :=
  Appends.trans first second

/-- Nothing is taken off a record: what does no harm in the end has done none on the way. -/
theorem parts {P Q : Event → Prop} (whole : Harmlessly events before after)
    (first : Appends P (events before) (events middle))
    (second : Appends Q (events middle) (events after)) :
    Harmlessly events before middle ∧ Harmlessly events middle after := by
  obtain ⟨all, added, harmless⟩ := whole
  obtain ⟨sent, front, -⟩ := first
  obtain ⟨more, back, -⟩ := second
  have parts : all = sent ++ more := by
    rw [back, front, List.append_assoc] at added
    exact (List.append_cancel_left added).symm
  refine ⟨⟨sent, front, fun event member => ?_⟩, more, back, fun event member => ?_⟩
  · exact harmless event (parts ▸ List.mem_append_left more member)
  · exact harmless event (parts ▸ List.mem_append_right sent member)

end Harmlessly

variable {σ α β : Type} [Recording σ]

/-! What is pretended -/

namespace Operation

theorem harmless_pretending {operation : Operation} {before after : Link σ}
    {reply : Except Error operation.Answer} (pretending : before.connection.pretending = true)
    (ended : Ends operation.perform before reply after) :
    Harmlessly Link.events before after := by
  cases operation with
  | ask request =>
      obtain ⟨-, rfl⟩ := Link.of_run_pretending pretending ended
      exact .of_eq rfl
  | begin =>
      obtain ⟨-, rfl⟩ := Link.of_begin_counted (.inr pretending) ended
      exact .of_eq rfl
  | commit =>
      obtain rfl := Link.of_commit_pretending pretending ended
      exact .of_eq rfl
  | rollback =>
      obtain rfl := Link.of_rollback_counted (.inr pretending) ended
      exact .of_eq rfl
  | setLogging on =>
      obtain rfl := of_setLogging ended
      exact .of_eq rfl
  | flush =>
      obtain rfl := of_flush ended
      exact .of_eq rfl
  | setWrite session =>
      rcases Link.of_setWrite ended with ⟨-, -, rfl⟩ | ⟨-, -, rfl⟩ <;> exact .of_eq rfl
  | setRead session =>
      obtain rfl := of_setRead ended
      exact .of_eq rfl
  | reconnect => exact (Link.appends_reconnect ended).mono fun _ => Event.Connects.harmless
  | disconnect =>
      obtain ⟨-, closed, added, calls⟩ := Link.of_disconnect ended
      refine ⟨closed, added, fun event member => ?_⟩
      have told : event.call ∈ closed.map Event.call := List.mem_map_of_mem member
      rw [calls] at told
      obtain ⟨session, -, call⟩ := List.mem_map.mp told
      simp [Event.Harmless, ← call]

end Operation

namespace Routine

variable {before after : Link σ} {routine : Routine α} {result : Except Error α}

theorem harmless_pretending (pretending : before.connection.pretending = true)
    (ended : Ends routine.perform before result after) : Harmlessly Link.events before after := by
  induction routine generalizing before after with
  | done value =>
      obtain ⟨-, rfl⟩ := ended.of_pure
      exact .refl _
  | fail error =>
      obtain ⟨-, rfl⟩ := ended.of_throw
      exact .refl _
  | look next ih => exact ih before.connection pretending (Link.of_current ended)
  | call operation next ih =>
      obtain ⟨reply, middle, called, rest⟩ := ended.of_outcome_bind
      obtain ⟨still, -⟩ := Operation.depth_of_perform pretending called
      have first : Harmlessly Link.events before middle :=
        Operation.harmless_pretending pretending called
      exact first.trans (ih reply still rest)
  | pretend body next bodyIh ih =>
      obtain ⟨captured, middle, ending, rest⟩ := ended.of_outcome_bind
      obtain ⟨inner, final, performed, -, rfl⟩ := Link.of_pretend ending
      have entered : before.pretended.connection.pretending = true := rfl
      have left : (final.restored before).connection.pretending = true := pretending
      -- Switching leaves the record alone, before the inner run and behind it.
      have inside : Harmlessly Link.events before.pretended final := bodyIh entered performed
      have first : Harmlessly Link.events before (final.restored before) := inside
      exact first.trans (ih captured left rest)

theorem harmless_pretend (routine : Routine α) :
    Always (Harmlessly Link.events) (Link.pretend (σ := σ) routine.perform) := by
  intro before result after ended
  obtain ⟨inner, final, performed, -, rfl⟩ := Link.of_pretend ended
  have entered : before.pretended.connection.pretending = true := rfl
  have inside : Harmlessly Link.events before.pretended final :=
    harmless_pretending entered performed
  exact inside

end Routine

/-! What is read -/

namespace Link

theorem harmless_fetch (fromPrimary : Bool) (statement : Statement) :
    Always (Harmlessly events) (run (σ := σ) (.fetch fromPrimary statement)) := by
  intro before result after ended
  refine (appends_run ended).mono fun event => ?_
  rintro (connects | ⟨session, call⟩)
  · exact connects.harmless
  · simp [Event.Harmless, call]

/-- A statement that changes something comes to a session: to the one for writing, or to a new one
in place of one that is not there. -/
def Reaches (link : Link σ) : Prop :=
  link.connection.pretending = false ∧
    (link.connection.write.isSome = true ∨
      link.connection.mayReconnect missingSession = true ∧
        ∃ renewed, Ends reconnect link (.ok ()) renewed)

theorem not_harmless_execute {statement : Statement} {session : Session} {before after : Link σ}
    {result : Except String Receipt} (write : before.connection.write = some session)
    (tried : Ends (tryRequest (.execute statement)) before result after) :
    ¬Harmlessly events before after := by
  rintro ⟨sent, added, harmless⟩
  have chosen : before.connection.session? (.execute statement) = some session := write
  obtain ⟨refusal, recorded⟩ := of_tryRequest chosen tried
  obtain rfl := List.append_cancel_left (added.symm.trans recorded)
  exact harmless ⟨.answer session (.execute statement), refusal⟩ (by simp)

theorem write_of_reconnect {before after : Link σ} (ended : Ends reconnect before (.ok ()) after) :
    ∃ session, after.connection.write = some session := by
  obtain ⟨opened, -, reopens⟩ := reopens_reconnect ended
  cases reopens with
  | @renewed write _ _ _ _ _ => exact ⟨write, rfl⟩

theorem unsent_of_missing {request : Request} {before after : Link σ}
    {result : Except String request.Answer} (missing : before.connection.session? request = none)
    (tried : Ends (tryRequest request) before result after) :
    result = .error missingSession ∧ after = before := by
  obtain ⟨sent, -, tries⟩ := tries_tryRequest tried
  cases tries with
  | unsent _ => exact ⟨rfl, rfl⟩
  | sent chosen _ _ => simp [missing] at chosen

theorem grows_execute {statement : Statement} {before after : Link σ}
    {result : Except String Receipt}
    (tried : Ends (tryRequest (.execute statement)) before result after) :
    Appends (fun _ => True) before.events after.events :=
  (appends_tryRequest tried).mono fun _ _ => trivial

theorem not_harmless_persist {statement : Statement} {wording : String → Error} {session : Session}
    {before after : Link σ} {result : Except Error Receipt}
    (write : before.connection.write = some session)
    (ended : Ends (persist wording (tryRequest (.execute statement))) before result after) :
    ¬Harmlessly events before after := by
  intro harmless
  rcases of_persist ended with ⟨_, tried, -⟩ | ⟨reason, middle, tried, -, next⟩
  · exact not_harmless_execute write tried harmless
  · -- Whatever comes of a second attempt, the first one is on record.
    have later : Appends (fun _ => True) middle.events after.events := by
      rcases next with ⟨_, failed, -⟩ | ⟨renewed, _, opened, again, -⟩
      · exact (appends_reconnect failed).mono fun _ _ => trivial
      · exact ((appends_reconnect opened).mono fun _ _ => trivial).trans (grows_execute again)
    exact not_harmless_execute write tried (harmless.parts (grows_execute tried) later).1

theorem harmless_persist_iff {statement : Statement} {wording : String → Error}
    {before after : Link σ} {result : Except Error Receipt}
    (missing : before.connection.write = none)
    (ended : Ends (persist wording (tryRequest (.execute statement))) before result after) :
    Harmlessly events before after ↔
      ¬(before.connection.mayReconnect missingSession = true ∧
        ∃ renewed, Ends reconnect before (.ok ()) renewed) := by
  have none : before.connection.session? (.execute statement) = none := missing
  rcases of_persist ended with ⟨_, tried, -, lasting⟩ | ⟨reason, middle, tried, may, next⟩
  · obtain ⟨rfl, rfl⟩ := unsent_of_missing none tried
    refine iff_of_true (.refl _) fun ⟨may, _⟩ => ?_
    cases (lasting missingSession rfl).symm.trans may
  · obtain ⟨same, rfl⟩ := unsent_of_missing none tried
    cases same
    rcases next with ⟨_, failed, -⟩ | ⟨renewed, _, opened, again, -⟩
    · refine iff_of_true ((appends_reconnect failed).mono fun _ => Event.Connects.harmless) ?_
      rintro ⟨-, renewed, opened⟩
      cases failed.ending_eq.symm.trans opened.ending_eq
    · refine iff_of_false (fun harmless => ?_) (not_not_intro ⟨may, renewed, opened⟩)
      obtain ⟨session, fresh⟩ := write_of_reconnect opened
      have parts := harmless.parts (appends_reconnect opened) (grows_execute again)
      exact not_harmless_execute fresh again parts.2

/-- What is executed does no harm only as long as it comes to no session. -/
theorem harmless_execute_iff {statement : Statement} {before after : Link σ}
    {result : Except Error Receipt} (ended : Ends (run (.execute statement)) before result after) :
    Harmlessly events before after ↔ ¬before.Reaches := by
  rcases of_run ended with ⟨pretending, -, rfl⟩ | ⟨talking, sent, persisted, rfl⟩
  · refine iff_of_true (.of_eq rfl) fun reaches => ?_
    cases pretending.symm.trans reaches.1
  · rw [Harmlessly, events_noted]
    cases write : before.connection.write with
    | some session =>
        have reaches : before.Reaches := ⟨talking, .inl (by rw [write]; rfl)⟩
        exact iff_of_false (not_harmless_persist write persisted) (not_not_intro reaches)
    | none =>
        refine (harmless_persist_iff write persisted).trans (not_congr ?_)
        simp [Reaches, talking, write]

end Link

/-! Connections by name -/

theorem harmless_openSessions (config : ConnectionConfig) :
    Always (Harmlessly Recording.events) (openSessions (σ := σ) config) :=
  fun _ _ _ opened => (Link.of_openSessions opened).imp fun _ ⟨added, connects⟩ =>
    ⟨added, fun event member => (connects event member).harmless⟩

theorem Connection.harmless_connect (name : String) (config : ConnectionConfig) :
    Always (Harmlessly Recording.events) (Connection.connect (σ := σ) name config) := by
  intro before result after ended
  obtain ⟨_, opened, -⟩ := Connection.of_connect ended
  exact (harmless_openSessions config).of opened

namespace Connections

def events (connections : Connections σ) : List Event :=
  Recording.events connections.database

theorem harmless_connection (name : Option String) :
    Always (Harmlessly events) (connection (σ := σ) name) := by
  intro before result after ended
  rcases of_connection ended with ⟨_, -, -, rfl⟩ | ⟨-, opening⟩
  · exact .refl _
  · rcases of_openNamed opening with ⟨_, -, -, rfl⟩ | ⟨config, _, _, -, opened, rest⟩
    · exact .refl _
    · have connects := (Connection.harmless_connect _ config).of opened
      rcases rest with ⟨_, -, -, rfl⟩ | ⟨_, -, -, rfl⟩ <;> exact connects

theorem found_connection {asked : Option String} {before after : Connections σ} {opened : Opened}
    (ended : Ends (connection asked) before (.ok opened) after) :
    after.find? (after.resolve asked) = some opened := by
  rcases of_connection ended with ⟨_, found, same, rfl⟩ | ⟨absent, opening⟩
  · cases same
    exact found
  · obtain ⟨found, default⟩ := opened_openNamed absent opening
    rwa [resolve, default]

/-- What is used successfully is kept. -/
theorem found_of_use {asked : Option String} {action : Action σ α} {before after : Connections σ}
    {value : α} (ended : Ends (use asked action) before (.ok value) after) :
    ∃ opened, after.find? (after.resolve asked) = some opened := by
  rcases ended.of_bind with ⟨_, -, failed⟩ | ⟨opened, opening, succeeded, rest⟩
  · cases failed
  have run : Ends (runOn (opening.resolve asked) opened.connection action) opening (.ok value)
    after := rest
  obtain ⟨final, -, rfl⟩ := of_runOn run
  exact ⟨_, find?_updated (found_connection succeeded)⟩

theorem harmless_runOn (name : String) (connection : Connection) {action : Action σ α}
    (does : Always (Harmlessly Link.events) action) :
    Always (Harmlessly events) (runOn name connection action) := by
  intro before result after ended
  obtain ⟨final, performed, rfl⟩ := of_runOn ended
  exact does.of performed

theorem harmless_use (name : Option String) {action : Action σ α}
    (does : Always (Harmlessly Link.events) action) :
    Always (Harmlessly events) (use name action) :=
  Always.bind Harmlessly.trans (harmless_connection name) fun _ _ _ _ ended =>
    (harmless_runOn _ _ does).of ended

end Connections

end SqlToolkit
