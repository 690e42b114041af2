import SqlToolkit.Proofs.Routines.Effects
/-!
Pretending: what a run does between the point where pretending begins and the point where it ends.
Its requests are only put on record, and its transactions are only counted; the count is all that a
pretended run leaves behind.
-/

namespace SqlToolkit

variable {σ α β : Type}

/-- A statement in the log that was not sent. -/
def Statement.unsent (statement : Statement) : Logged :=
  ⟨statement, false⟩

namespace Operation

/-- Neither manages sessions nor throws the log away. -/
def Quiet : Operation → Prop
  | ask _ | begin | commit | rollback | setLogging _ => True
  | flush | setWrite _ | setRead _ | reconnect | disconnect => False

/-- The depth of transactions behind a call, if none is sent to the database. -/
def depth : Operation → Nat → Nat
  | begin, level => level + 1
  | commit, level | rollback, level => level - 1
  | _, level => level

variable [Recording σ] {before after : Link σ}

theorem depth_of_perform {operation : Operation} {reply : Except Error operation.Answer}
    (pretending : before.connection.pretending = true)
    (ended : Ends operation.perform before reply after) :
    after.connection.pretending = true ∧
      after.connection.level = operation.depth before.connection.level := by
  cases operation with
  | ask request =>
      obtain ⟨-, rfl⟩ := Link.of_run_pretending pretending ended
      exact ⟨pretending, rfl⟩
  | begin =>
      obtain ⟨-, rfl⟩ := Link.of_begin_counted (.inr pretending) ended
      exact ⟨pretending, rfl⟩
  | commit =>
      obtain rfl := Link.of_commit_pretending pretending ended
      exact ⟨pretending, rfl⟩
  | rollback =>
      obtain rfl := Link.of_rollback_counted (.inr pretending) ended
      exact ⟨pretending, rfl⟩
  | setLogging on =>
      obtain rfl := of_setLogging ended
      exact ⟨pretending, rfl⟩
  | flush =>
      obtain rfl := of_flush ended
      exact ⟨pretending, rfl⟩
  | setWrite session =>
      rcases Link.of_setWrite ended with ⟨-, -, rfl⟩ | ⟨-, -, rfl⟩ <;> exact ⟨pretending, rfl⟩
  | setRead session =>
      obtain rfl := of_setRead ended
      exact ⟨pretending, rfl⟩
  | reconnect =>
      obtain ⟨steady, -⟩ := Link.of_reconnect ended
      exact ⟨steady.pretending.trans pretending, steady.level⟩
  | disconnect =>
      obtain ⟨kept, -⟩ := Link.of_disconnect ended
      rw [kept]
      exact ⟨pretending, rfl⟩

end Operation

namespace Link

/-- At most the depth and the switch of the log are changed, and statements are put on record. -/
def Captures (statements : List Statement) (before after : Link σ) : Prop :=
  ∃ level logging, after = { before with connection := { before.connection with
    level, logging, log := before.connection.log ++ statements.map Statement.unsent } }

namespace Captures

variable {before middle after : Link σ} {statements more : List Statement}

theorem refl (link : Link σ) : Captures [] link link :=
  ⟨link.connection.level, link.connection.logging, by simp⟩

theorem trans (first : Captures statements before middle) (second : Captures more middle after) :
    Captures (statements ++ more) before after := by
  obtain ⟨_, _, rfl⟩ := first
  obtain ⟨level, logging, rfl⟩ := second
  exact ⟨level, logging, by simp⟩

theorem pretending (captures : Captures statements before after) :
    after.connection.pretending = before.connection.pretending := by
  obtain ⟨_, _, rfl⟩ := captures
  rfl

/-- Nothing of what is captured inside stays. -/
theorem restored (captures : Captures statements before.pretended after) :
    Captures [] before (after.restored before) := by
  obtain ⟨level, _, rfl⟩ := captures
  exact ⟨level, before.connection.logging, by simp [Link.restored, pretended, switched]⟩

end Captures

variable [Recording σ] {before after : Link σ}

theorem captures_perform {operation : Operation} {reply : Except Error operation.Answer}
    (quiet : operation.Quiet) (pretending : before.connection.pretending = true)
    (ended : Ends operation.perform before reply after) :
    Captures operation.statements before after := by
  cases operation with
  | ask request =>
      obtain ⟨-, rfl⟩ := of_run_pretending pretending ended
      exact ⟨before.connection.level, before.connection.logging, rfl⟩
  | begin =>
      obtain ⟨-, rfl⟩ := of_begin_counted (.inr pretending) ended
      exact ⟨_, before.connection.logging, by simp [atLevel, Operation.statements]; rfl⟩
  | commit =>
      obtain rfl := of_commit_pretending pretending ended
      exact ⟨_, before.connection.logging, by simp [atLevel, Operation.statements]; rfl⟩
  | rollback =>
      obtain rfl := of_rollback_counted (.inr pretending) ended
      exact ⟨_, before.connection.logging, by simp [atLevel, Operation.statements]; rfl⟩
  | setLogging on =>
      obtain rfl := Operation.of_setLogging ended
      exact ⟨before.connection.level, on, by simp [Operation.statements]⟩
  | flush | setWrite _ | setRead _ | reconnect | disconnect => cases quiet

end Link

namespace Routine

variable [Recording σ] {before after : Link σ} {routine : Routine α} {result : Except Error α}

/-- Pretending, each call of a run counts for itself, and so do those pretended inside it. -/
theorem depth_of_perform (pretending : before.connection.pretending = true)
    (ended : Ends routine.perform before result after) :
    after.connection.pretending = true ∧
      after.connection.level = (routine.acts before).foldl
        (fun level act => act.operation.depth level) before.connection.level := by
  induction routine generalizing before after with
  | done value =>
      obtain ⟨-, rfl⟩ := ended.of_pure
      exact ⟨pretending, rfl⟩
  | fail error =>
      obtain ⟨-, rfl⟩ := ended.of_throw
      exact ⟨pretending, rfl⟩
  | look next ih => exact ih before.connection pretending (Link.of_current ended)
  | call operation next ih =>
      obtain ⟨reply, middle, called, rest⟩ := ended.of_outcome_bind
      obtain ⟨still, level⟩ := Operation.depth_of_perform pretending called
      obtain ⟨lasting, counted⟩ := ih reply still rest
      refine ⟨lasting, ?_⟩
      rw [acts_call called, List.foldl_cons, counted, level]
  | pretend body next bodyIh ih =>
      obtain ⟨captured, middle, ending, rest⟩ := ended.of_outcome_bind
      obtain ⟨inner, final, performed, -, rfl⟩ := Link.of_pretend ending
      have entered : before.pretended.connection.pretending = true := rfl
      have left : (final.restored before).connection.pretending = true := pretending
      obtain ⟨-, inside⟩ := bodyIh entered performed
      obtain ⟨lasting, counted⟩ := ih captured left rest
      refine ⟨lasting, ?_⟩
      rw [acts_pretend ending, List.foldl_append, counted]
      exact congrArg (List.foldl _ · _) inside

/-- Pretending, a run that is quiet puts its statements on record, and nothing else comes of it but
a count. -/
theorem captures_perform (pretending : before.connection.pretending = true)
    (quiet : ∀ act ∈ routine.acts before, act.operation.Quiet)
    (ended : Ends routine.perform before result after) :
    Link.Captures (routine.issued before) before after := by
  induction routine generalizing before after with
  | done value =>
      obtain ⟨-, rfl⟩ := ended.of_pure
      exact .refl _
  | fail error =>
      obtain ⟨-, rfl⟩ := ended.of_throw
      exact .refl _
  | look next ih => exact ih before.connection pretending quiet (Link.of_current ended)
  | call operation next ih =>
      obtain ⟨reply, middle, called, rest⟩ := ended.of_outcome_bind
      rw [acts_call called] at quiet
      have first : Link.Captures operation.statements before middle :=
        Link.captures_perform (quiet ⟨operation, before⟩ (by simp)) pretending called
      have second : Link.Captures ((next reply).issued middle) middle after :=
        ih reply (first.pretending.trans pretending)
          (fun act member => quiet act (List.mem_cons_of_mem _ member)) rest
      rw [issued_call called]
      exact first.trans second
  | pretend body next bodyIh ih =>
      obtain ⟨captured, middle, ending, rest⟩ := ended.of_outcome_bind
      rw [acts_pretend ending] at quiet
      rw [issued_pretend ending]
      obtain ⟨inner, final, performed, -, rfl⟩ := Link.of_pretend ending
      have entered : before.pretended.connection.pretending = true := rfl
      have left : (final.restored before).connection.pretending = true := pretending
      have inside : Link.Captures (body.issued before.pretended) before.pretended final :=
        bodyIh entered (fun act member => quiet act (List.mem_append_left _ member)) performed
      -- What the inner run captured is handed out and taken off the log again.
      have first : Link.Captures [] before (final.restored before) := inside.restored
      have second : Link.Captures ((next captured).issued (final.restored before))
          (final.restored before) after :=
        ih captured left (fun act member => quiet act (List.mem_append_right _ member)) rest
      exact first.trans second

/-- Pretending, a quiet run sends nothing; when it ends, well or not, the switches and the log are as
they were before, and it results in the statements that were issued in it. -/
theorem pretending_isolates (callback : Routine α) (link : Link σ)
    (quiet : ∀ act ∈ callback.acts link.pretended, act.operation.Quiet) :
    ∃ inner final result after, Ends callback.perform link.pretended inner final ∧
      Ends (Link.pretend callback.perform) link result after ∧
      result = inner.map (fun _ => (callback.issued link.pretended).map Statement.unsent) ∧
      after.database = link.database ∧ after.events = link.events ∧
      after.connection.pretending = link.connection.pretending ∧
      after.connection.logging = link.connection.logging ∧
      after.connection.log = link.connection.log := by
  obtain ⟨result, after, ended⟩ := Ends.exists (Link.pretend callback.perform) link
  obtain ⟨inner, final, performed, rfl, rfl⟩ := Link.of_pretend ended
  have entered : link.pretended.connection.pretending = true := rfl
  obtain ⟨level, logging, rfl⟩ := captures_perform entered quiet performed
  exact ⟨inner, _, _, _, performed, ended, rfl, rfl, rfl, rfl, rfl, rfl⟩

def untouched : Link Script where
  connection :=
    { name := "main", config := { driver := "sqlite" }, vendor := .sqlite, marker := .question,
      write := some ⟨0, "write", none⟩, read := none, logging := false }
  database := { sessions := 1 }

/-- A connection that pretends already, inside a transaction, with a log. -/
def rehearsing : Link Script :=
  { untouched with connection := { untouched.connection with
    level := 1, pretending := true, log := [⟨⟨"SELECT 1", []⟩, true⟩] } }

/-- Switches the log off, pretends a part that fails, and leaves a transaction open. -/
def rehearsal : Routine Unit :=
  call (.setLogging false) fun _ =>
    call (.ask (.execute ⟨"DELETE FROM users WHERE id = ?", [.integer 5]⟩)) fun _ =>
      pretend (call (.ask (.unprepared "VACUUM")) fun _ => fail (α := Unit) (.driver "stop")) fun _ =>
        (transaction (call (.ask (.fetch false ⟨"SELECT 2", []⟩)) fun _ => done ())).andThen fun _ =>
          call .begin fun _ => done ()

theorem rehearsal_isolated :
    ∃ after, Ends (Link.pretend rehearsal.perform) rehearsing
        (.ok [⟨⟨"DELETE FROM users WHERE id = ?", [.integer 5]⟩, false⟩, ⟨⟨"SELECT 2", []⟩, false⟩])
        after ∧
      after.events = rehearsing.events ∧ after.connection.log = rehearsing.connection.log := by
  have quiet : ∀ act ∈ rehearsal.acts rehearsing.pretended, act.operation.Quiet := by
    have calls : (rehearsal.acts rehearsing.pretended).map Act.operation =
        [.setLogging false, .ask (.execute ⟨"DELETE FROM users WHERE id = ?", [.integer 5]⟩),
          .ask (.unprepared "VACUUM"), .begin, .ask (.fetch false ⟨"SELECT 2", []⟩), .commit,
          .begin] := by rfl
    intro act member
    have made : act.operation ∈ (rehearsal.acts rehearsing.pretended).map Act.operation :=
      List.mem_map_of_mem member
    rw [calls] at made
    simp only [List.mem_cons, List.not_mem_nil, or_false] at made
    rcases made with same | same | same | same | same | same | same <;>
      simp [same, Operation.Quiet]
  obtain ⟨inner, final, result, after, performed, ended, rfl, -, silent, -, -, log⟩ :=
    pretending_isolates rehearsal rehearsing quiet
  have succeeds : (ending rehearsal.perform rehearsing.pretended).1 = .ok () := by rfl
  rw [performed.ending_eq] at succeeds
  cases succeeds
  exact ⟨after, ended, silent, log⟩

/-- The begins among the calls and what ends them cancel out, counted from a depth. -/
def Balanced (level : Nat) (operations : List Operation) : Prop :=
  operations.foldl (fun level operation => operation.depth level) level = level

/-- Pretending leaves the depth of transactions as it was just if the begins, commits and rollbacks
that were pretended cancel out. -/
theorem pretending_keeps_level_iff (callback : Routine α) (link : Link σ) :
    ∃ result after, Ends (Link.pretend callback.perform) link result after ∧
      (after.connection.level = link.connection.level ↔
        Balanced link.connection.level
          ((callback.acts link.pretended).map Act.operation)) := by
  obtain ⟨result, after, ended⟩ := Ends.exists (Link.pretend callback.perform) link
  obtain ⟨inner, final, performed, -, rfl⟩ := Link.of_pretend ended
  have entered : link.pretended.connection.pretending = true := rfl
  obtain ⟨-, counted⟩ := depth_of_perform entered performed
  refine ⟨result, _, ended, ?_⟩
  unfold Balanced
  rw [List.foldl_map]
  change final.connection.level = link.connection.level ↔ _
  rw [counted]
  rfl

/-- A begin that is pretended is counted for good: the next one is not sent. -/
theorem pretended_begin_counts :
    let after := (ending (Link.pretend (perform (call .begin fun _ => done ()))) untouched).2
    untouched.connection.level = 0 ∧ after.connection.level = 1 ∧
      (ending Link.begin after).2.events = [] := by
  decide

end Routine

end SqlToolkit
