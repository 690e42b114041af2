import SqlToolkit.Connection.Script
/-!
Databases that keep a record of their calls. A scripted database does, and any other can be given
one.
-/

namespace SqlToolkit

/-! How a stateful computation ends -/

section Ends

variable {ε ε' σ α β : Type}

/-- The action, run from `before`, ends with `result` in `after`. -/
def Ends (action : EStateM ε σ α) (before : σ) (result : Except ε α) (after : σ) : Prop :=
  match result with
  | .ok value => action before = .ok value after
  | .error error => action before = .error error after

theorem Ends.exists (action : EStateM ε σ α) (before : σ) :
    ∃ result after, Ends action before result after := by
  cases ended : action before with
  | ok value after => exact ⟨.ok value, after, ended⟩
  | error error after => exact ⟨.error error, after, ended⟩

def ending (action : EStateM ε σ α) (before : σ) : Except ε α × σ :=
  match action before with
  | .ok value after => (.ok value, after)
  | .error error after => (.error error, after)

theorem Ends.ending_eq {action : EStateM ε σ α} {before after : σ} {result : Except ε α}
    (ended : Ends action before result after) : ending action before = (result, after) := by
  unfold ending
  cases result <;> rw [show action before = _ from ended]

theorem Ends.of_bind {first : EStateM ε σ α} {next : α → EStateM ε σ β} {before after : σ}
    {result : Except ε β} (ended : Ends (first >>= next) before result after) :
    (∃ error, Ends first before (.error error) after ∧ result = .error error) ∨
      ∃ value middle, Ends first before (.ok value) middle ∧
        Ends (next value) middle result after := by
  have step : (first >>= next) before = match first before with
      | .ok value middle => next value middle
      | .error error middle => .error error middle := rfl
  cases started : first before with
  | ok value middle =>
      refine .inr ⟨value, middle, started, ?_⟩
      rw [started] at step
      cases result <;> exact step.symm.trans ended
  | error error middle =>
      rw [started] at step
      cases result with
      | ok value =>
          have := step.symm.trans ended
          cases this
      | error other =>
          have same := step.symm.trans ended
          injection same with same place
          subst same place
          exact .inl ⟨_, started, rfl⟩

theorem Ends.of_outcome {action : EStateM ε σ α} {before after : σ}
    {result : Except ε' (Except ε α)} (ended : Ends (outcome action) before result after) :
    ∃ inner, result = .ok inner ∧ Ends action before inner after := by
  unfold Ends outcome at ended
  cases started : action before with
  | ok value middle =>
      rw [started] at ended
      cases result <;> cases ended
      exact ⟨.ok value, rfl, started⟩
  | error error middle =>
      rw [started] at ended
      cases result <;> cases ended
      exact ⟨.error error, rfl, started⟩

/-- What is tried first ends somehow, and the rest goes on there. -/
theorem Ends.of_outcome_bind {action : EStateM ε σ α} {next : Except ε α → EStateM ε' σ β}
    {before after : σ} {result : Except ε' β}
    (ended : Ends (outcome action >>= next) before result after) :
    ∃ inner middle, Ends action before inner middle ∧ Ends (next inner) middle result after := by
  rcases ended.of_bind with ⟨error, failed, -⟩ | ⟨inner, middle, tried, rest⟩
  · obtain ⟨_, same, -⟩ := failed.of_outcome
    cases same
  · obtain ⟨_, ⟨⟩, tried⟩ := tried.of_outcome
    exact ⟨inner, middle, tried, rest⟩

theorem Ends.of_pure {value : α} {before after : σ} {result : Except ε α}
    (ended : Ends (pure value) before result after) : result = .ok value ∧ after = before := by
  cases result <;> cases ended
  exact ⟨rfl, rfl⟩

theorem Ends.of_throw {error : ε} {before after : σ} {result : Except ε α}
    (ended : Ends (throw error) before result after) : result = .error error ∧ after = before := by
  cases result <;> cases ended
  exact ⟨rfl, rfl⟩

theorem Ends.of_get {next : σ → EStateM ε σ α} {before after : σ} {result : Except ε α}
    (ended : Ends (get >>= next) before result after) : Ends (next before) before result after :=
  ended

theorem Ends.of_adaptExcept {action : EStateM ε σ α} {f : ε → ε'} {before after : σ}
    {result : Except ε' α} (ended : Ends (action.adaptExcept f) before result after) :
    ∃ inner, Ends action before inner after ∧ result = inner.mapError f := by
  unfold Ends EStateM.adaptExcept at ended
  cases started : action before with
  | ok value middle =>
      rw [started] at ended
      cases result <;> cases ended
      exact ⟨.ok value, started, rfl⟩
  | error error middle =>
      rw [started] at ended
      cases result <;> cases ended
      exact ⟨.error error, started, rfl⟩

end Ends

/-! What an action always does -/

section Always

variable {ε ε' σ α β : Type} {R : σ → σ → Prop}

/-- However the action ends, the relation holds from where it began to where it ended. -/
def Always (R : σ → σ → Prop) (action : EStateM ε σ α) : Prop :=
  ∀ before result after, Ends action before result after → R before after

namespace Always

theorem of {action : EStateM ε σ α} (does : Always R action) {before after : σ}
    {result : Except ε α} (ended : Ends action before result after) : R before after :=
  does before result after ended

theorem pure (refl : ∀ state, R state state) (value : α) :
    Always R (Pure.pure value : EStateM ε σ α) := by
  intro before result after ended
  obtain ⟨-, rfl⟩ := ended.of_pure
  exact refl _

theorem bind (trans : ∀ {before middle after}, R before middle → R middle after → R before after)
    {first : EStateM ε σ α} {next : α → EStateM ε σ β} (does : Always R first)
    (goes : ∀ value, Always R (next value)) : Always R (first >>= next) := by
  intro before result after ended
  rcases ended.of_bind with ⟨error, failed, -⟩ | ⟨value, middle, started, rest⟩
  · exact does.of failed
  · exact trans (does.of started) ((goes value).of rest)

theorem adaptExcept {action : EStateM ε σ α} {f : ε → ε'} (does : Always R action) :
    Always R (action.adaptExcept f) := by
  intro before result after ended
  obtain ⟨inner, performed, -⟩ := ended.of_adaptExcept
  exact does.of performed

theorem outcome {action : EStateM ε σ α} (does : Always R action) :
    Always R (SqlToolkit.outcome action : EStateM ε' σ (Except ε α)) := by
  intro before result after ended
  obtain ⟨inner, -, performed⟩ := ended.of_outcome
  exact does.of performed

/-- One action after the other, however each of them ends. -/
theorem each (refl : ∀ state, R state state)
    (trans : ∀ {before middle after}, R before middle → R middle after → R before after)
    {items : List β} {body : β → EStateM ε σ α} (does : ∀ item, Always R (body item)) :
    Always R (do
      for item in items do
        let _ ← SqlToolkit.outcome (body item) : EStateM ε' σ Unit) := by
  induction items with
  | nil => exact pure refl _
  | cons item rest ih =>
      simp only [List.forIn_cons, bind_assoc]
      exact bind (R := R) trans (does item).outcome fun _ => ih

end Always

end Always

/-! Records -/

/-- The action is recorded as one call, as refused just if it fails. -/
def Records {ε σ α : Type} (events : σ → List Event) (call : Call)
    (action : EStateM ε σ α) : Prop :=
  ∀ {before result after}, Ends action before result after →
    ∃ refusal, events after = events before ++ [⟨call, refusal⟩] ∧
      (refusal = none ↔ ∃ value, result = .ok value)

/-- A database that keeps a record of the calls that it receives. -/
class Recording (σ : Type) extends Database σ where
  events : σ → List Event
  connects : ∀ config role, Records events (.connect config role) (connect config role)
  answers : ∀ session request, Records events (.answer session request) (answer session request)
  controls : ∀ session call, Records events (.control session call) (control session call)

namespace Script

theorem of_connect {config : ConnectionConfig} {role : Role} {before after : Script}
    {result : Except Error Session} (ended : Ends (connect config role) before result after) :
    (∃ refusal error, result = .error error ∧
        after.events = before.events ++ [⟨.connect config role, some refusal⟩] ∧
        after.sessions = before.sessions) ∨
      ∃ session, result = .ok session ∧ session.serial = before.sessions ∧
        after.events = before.events ++ [⟨.connect config role, none⟩] ∧
        after.sessions = before.sessions + 1 := by
  unfold Ends connect at ended
  cases refused : before.connects.head?.join with
  | none =>
      simp only [refused, openSession] at ended
      cases result <;> cases ended
      exact .inr ⟨_, rfl, rfl, rfl, rfl⟩
  | some refusal =>
      simp only [refused] at ended
      cases result <;> cases ended
      exact .inl ⟨refusal, _, rfl, rfl, rfl⟩

theorem of_answer {session : Session} {request : Request} {before after : Script}
    {result : Except String request.Answer}
    (ended : Ends (answer session request) before result after) :
    after.sessions = before.sessions ∧
      ∃ refusal, after.events = before.events ++ [⟨.answer session request, refusal⟩] ∧
        (refusal = none ↔ ∃ answer, result = .ok answer) := by
  unfold Ends answer at ended
  cases refused : before.statements.head?.join with
  | none =>
      simp only [refused] at ended
      cases request <;> cases result <;> cases ended <;> exact ⟨rfl, none, rfl, by simp⟩
  | some refusal =>
      simp only [refused] at ended
      cases result <;> cases ended
      exact ⟨rfl, some refusal, rfl, by simp⟩

theorem of_control {session : Session} {call : Control} {before after : Script}
    {result : Except String Unit} (ended : Ends (control session call) before result after) :
    after.sessions = before.sessions ∧
      ∃ refusal, after.events = before.events ++ [⟨.control session call, refusal⟩] ∧
        (refusal = none ↔ ∃ done, result = .ok done) := by
  unfold Ends control at ended
  have sessions : (before.advance call).sessions = before.sessions := by cases call <;> rfl
  have events : (before.advance call).events = before.events := by cases call <;> rfl
  cases refused : (before.refusals call).head?.join with
  | none =>
      simp only [refused] at ended
      cases result <;> cases ended
      exact ⟨sessions, none, by simp [record, events], by simp⟩
  | some refusal =>
      simp only [refused] at ended
      cases result <;> cases ended
      exact ⟨sessions, some refusal, by simp [record, events], by simp⟩

instance : Recording Script where
  events := Script.events
  connects _ _ := by
    intro before result after ended
    rcases of_connect ended with ⟨refusal, error, rfl, recorded, -⟩ | ⟨session, rfl, -, recorded, -⟩
    · exact ⟨some refusal, recorded, by simp⟩
    · exact ⟨none, recorded, by simp⟩
  answers _ _ _ _ _ ended := (of_answer ended).2
  controls _ _ _ _ _ ended := (of_control ended).2

end Script

/-- Any database, with a record beside it. -/
structure Traced (σ : Type) where
  database : σ
  events : List Event := []

namespace Traced

variable {σ ε α : Type}

/-- Performs an action on the database itself; `words` tells a failure in the record. -/
def record (call : Call) (words : ε → String) (action : EStateM ε σ α) :
    EStateM ε (Traced σ) α := fun traced =>
  match action traced.database with
  | .ok value database => .ok value ⟨database, traced.events ++ [⟨call, none⟩]⟩
  | .error error database =>
      .error error ⟨database, traced.events ++ [⟨call, some (words error)⟩]⟩

theorem records_record (call : Call) (words : ε → String) (action : EStateM ε σ α) :
    Records Traced.events call (record call words action) := by
  intro before result after ended
  unfold Ends record at ended
  cases performed : action before.database with
  | ok value database =>
      simp only [performed] at ended
      cases result <;> cases ended
      exact ⟨none, rfl, by simp⟩
  | error error database =>
      simp only [performed] at ended
      cases result <;> cases ended
      exact ⟨some (words error), rfl, by simp⟩

instance [Database σ] : Recording (Traced σ) where
  connect config role := record (.connect config role) Error.message (Database.connect config role)
  answer session request := record (.answer session request) id (Database.answer session request)
  control session call := record (.control session call) id (Database.control session call)
  events := Traced.events
  connects _ _ := records_record _ _ _
  answers _ _ := records_record _ _ _
  controls _ _ := records_record _ _ _

end Traced

end SqlToolkit
