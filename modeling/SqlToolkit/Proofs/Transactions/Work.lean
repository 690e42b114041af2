import SqlToolkit.Proofs.Transactions.Scopes
/-!
Work on a connection: requests and scoped transactions inside one another to any depth, where what
is done next may depend on how the last of them ended, so that failures may be swallowed.
-/

namespace SqlToolkit

variable {σ α β : Type}

inductive Work : Type → Type 1 where
  | done {α : Type} (value : α) : Work α
  | fail {α : Type} (error : Error) : Work α
  | ask {α : Type} (request : Request) (next : Except Error request.Answer → Work α) : Work α
  | scope {α β : Type} (body : Work β) (next : Except Error β → Work α) : Work α

namespace Work

def andThen : {α : Type} → Work α → (Except Error α → Work β) → Work β
  | _, done value, next => next (.ok value)
  | _, fail error, next => next (.error error)
  | _, ask request more, next => ask request fun reply => (more reply).andThen next
  | _, scope body more, next => scope body fun ended => (more ended).andThen next

/-- A program is work without scopes. -/
def ofProgram : Program α → Work α
  | .result value => done value
  | .failure error => fail error
  | .attached next => ofProgram next
  | .send request next => ask request fun
      | .ok answer => ofProgram (next answer)
      | .error error => fail error

section Performing

variable [Database σ]

def perform : {α : Type} → Work α → Action σ α
  | _, done value => pure value
  | _, fail error => throw error
  | _, ask request next => do perform (next (← outcome (Link.run request)))
  | _, scope body next => do perform (next (← outcome (Link.transaction body.perform)))

theorem perform_andThen (first : Work α) (next : Except Error α → Work β) :
    (first.andThen next).perform (σ := σ) =
      outcome first.perform >>= fun ended => (next ended).perform := by
  induction first with
  | done value => rfl
  | fail error => rfl
  | ask request more ih =>
      funext link
      simp only [andThen, perform, ih]
      simp only [bind, EStateM.bind, outcome]
      cases Link.run request link <;> rfl
  | scope body more _ ih =>
      funext link
      simp only [andThen, perform, ih]
      simp only [bind, EStateM.bind, outcome]
      cases Link.transaction body.perform link <;> rfl

theorem perform_ofProgram (program : Program α) :
    (ofProgram program).perform (σ := σ) = Link.perform program := by
  induction program with
  | result value => rfl
  | failure error => rfl
  | attached next ih => exact ih
  | send request next ih =>
      funext link
      simp only [ofProgram, perform, Link.perform]
      simp only [bind, EStateM.bind, outcome]
      cases Link.run request link with
      | ok answer after => exact congrFun (ih answer) after
      | error error after => rfl

/-- The requests that the work makes, in order, those of its scopes among them. -/
def requests : {α : Type} → Work α → Link σ → List Request
  | _, done _, _ => []
  | _, fail _, _ => []
  | _, ask request next, link =>
      let (reply, after) := ending (Link.run request) link
      request :: (next reply).requests after
  | _, scope body next, link =>
      let inside := match ending Link.begin link with
        | (.ok _, begun) => body.requests begun
        | (.error _, _) => []
      let (result, after) := ending (Link.transaction body.perform) link
      inside ++ (next result).requests after

end Performing

variable [Recording σ] {work : Work α} {body : Work β} {before after link entry : Link σ}

/-! What one piece of work does, by induction on it -/

/-- Inside a transaction, the requests of the work are sent to the session of the transaction. -/
theorem talks {session : Session} {result : Except Error α} (inside : Link.Inside session before)
    (ended : Ends work.perform before result after) :
    Link.Talks session (work.requests before) before after := by
  induction work generalizing before after with
  | done value =>
      obtain ⟨-, rfl⟩ := ended.of_pure
      exact .refl _
  | fail error =>
      obtain ⟨-, rfl⟩ := ended.of_throw
      exact .refl _
  | ask request next ih =>
      obtain ⟨reply, middle, answered, rest⟩ := ended.of_outcome_bind
      have first := inside.run answered
      have made :
          (ask request next).requests before = [request] ++ (next reply).requests middle := by
        simp only [requests, answered.ending_eq, List.singleton_append]
      rw [made]
      exact first.trans (ih reply (first.inside inside) rest)
  | scope body next bodyTalks ih =>
      obtain ⟨inner, middle, settled, rest⟩ := ended.of_outcome_bind
      -- Inside a transaction the scope is only counted: its body runs one level deeper.
      have first := inside.transaction (fun deeper performed => bodyTalks deeper performed) settled
      have made : (scope body next).requests before =
          body.requests (before.atLevel (before.connection.level + 1)) ++
            (next inner).requests middle := by
        have begun := Link.begin_counted (.inl (Nat.one_le_iff_ne_zero.mp inside.nested))
        simp only [requests, begun.ending_eq, settled.ending_eq]
      rw [made]
      exact first.trans (ih inner (first.inside inside) rest)

theorem silent {result : Except Error α} (pretending : before.connection.pretending = true)
    (ended : Ends work.perform before result after) :
    Link.Steady before after ∧ after.database = before.database := by
  induction work generalizing before after with
  | done value =>
      obtain ⟨-, rfl⟩ := ended.of_pure
      exact ⟨.refl _, rfl⟩
  | fail error =>
      obtain ⟨-, rfl⟩ := ended.of_throw
      exact ⟨.refl _, rfl⟩
  | ask request next ih =>
      obtain ⟨reply, middle, answered, rest⟩ := ended.of_outcome_bind
      obtain ⟨first, kept⟩ := Link.steady_run answered
      obtain ⟨second, same⟩ := ih reply (first.pretending.trans pretending) rest
      exact ⟨first.trans second, same.trans (kept pretending)⟩
  | scope body next bodySilent ih =>
      obtain ⟨inner, middle, settled, rest⟩ := ended.of_outcome_bind
      obtain ⟨first, kept⟩ := Link.transaction_pretending pretending bodySilent settled
      obtain ⟨second, same⟩ := ih inner (first.pretending.trans pretending) rest
      exact ⟨first.trans second, same.trans kept⟩

/-! The scopes of a run -/

/-- Performed on `link`, the work enters the scope of `body` at `entry`, inside as many scopes as
`depth` says. -/
inductive Enters : {α β : Type} → Work α → Link σ → Nat → Work β → Link σ → Prop
  | here {α β : Type} {body : Work β} {next : Except Error β → Work α} {link : Link σ} :
      Enters (scope body next) link 0 body link
  | inside {α β γ : Type} {outer : Work γ} {next : Except Error γ → Work α} {body : Work β}
      {link begun entry : Link σ} {depth : Nat} (begins : Ends Link.begin link (.ok ()) begun)
      (entered : Enters outer begun depth body entry) :
      Enters (scope outer next) link (depth + 1) body entry
  | afterScope {α β γ : Type} {first : Work γ} {next : Except Error γ → Work α} {body : Work β}
      {link middle entry : Link σ} {result : Except Error γ} {depth : Nat}
      (ended : Ends (Link.transaction first.perform) link result middle)
      (entered : Enters (next result) middle depth body entry) :
      Enters (scope first next) link depth body entry
  | afterAsk {α β : Type} {request : Request} {next : Except Error request.Answer → Work α}
      {body : Work β} {link middle entry : Link σ} {reply : Except Error request.Answer}
      {depth : Nat} (ended : Ends (Link.run request) link reply middle)
      (entered : Enters (next reply) middle depth body entry) :
      Enters (ask request next) link depth body entry

/-- Outside transactions, or pretending, or inside a transaction that is open on a session. -/
def Anchored (link : Link σ) : Prop :=
  link.connection.level = 0 ∨ link.connection.pretending = true ∨
    ∃ session, Link.Inside session link

namespace Anchored

omit [Recording σ] in
theorem of_steady (anchored : Anchored before) (steady : Link.Steady before after)
    (inside : ∀ {session}, Link.Inside session before → Link.Inside session after) :
    Anchored after := by
  rcases anchored with outside | pretending | ⟨session, open'⟩
  · exact .inl (steady.level.trans outside)
  · exact .inr (.inl (steady.pretending.trans pretending))
  · exact .inr (.inr ⟨session, inside open'⟩)

theorem begin (anchored : Anchored before) (ended : Ends Link.begin before (.ok ()) after) :
    Anchored after ∧ after.connection.level = before.connection.level + 1 ∧
      after.connection.pretending = before.connection.pretending := by
  by_cases counted : before.connection.level ≠ 0 ∨ before.connection.pretending = true
  · obtain ⟨-, rfl⟩ := Link.of_begin_counted counted ended
    refine ⟨?_, rfl, rfl⟩
    rcases anchored with outside | pretending | ⟨session, inside⟩
    · exact .inr (.inl (counted.resolve_left (absurd outside)))
    · exact .inr (.inl pretending)
    · exact .inr (.inr ⟨session, Nat.succ_pos _, inside.write, inside.talking⟩)
  · simp only [not_or, ne_eq, Decidable.not_not, Bool.not_eq_true] at counted
    obtain ⟨outside, talking⟩ := counted
    obtain ⟨⟨_, -, session, write, -⟩, quiet, level⟩ := Link.of_begin outside talking ended
    have inside : Link.Inside session after := ⟨Nat.le_of_eq level.symm, write, quiet⟩
    exact ⟨.inr (.inr ⟨session, inside⟩), by rw [level, outside]; rfl, quiet.trans talking.symm⟩

theorem run {request : Request} {reply : Except Error request.Answer} (anchored : Anchored before)
    (ended : Ends (Link.run request) before reply after) :
    Anchored after ∧ Link.Steady before after := by
  have steady := (Link.steady_run ended).1
  exact ⟨anchored.of_steady steady fun inside => (inside.run ended).inside inside, steady⟩

theorem scope {result : Except Error β} (anchored : Anchored before)
    (ended : Ends (Link.transaction body.perform) before result after) :
    Anchored after ∧ Link.Steady before after := by
  have whole : ∀ {session}, Link.Inside session before → Link.Talks session
      (body.requests (before.atLevel (before.connection.level + 1))) before after :=
    fun inside => inside.transaction talks ended
  have steady : Link.Steady before after := by
    by_cases pretending : before.connection.pretending = true
    · exact (Link.transaction_pretending pretending silent ended).1
    · rcases anchored with outside | pretends | ⟨session, inside⟩
      · exact (Link.of_transaction_outermost outside (by simpa using pretending) talks ended).1
      · exact absurd pretends pretending
      · exact (whole inside).toSteady
  exact ⟨anchored.of_steady steady fun inside => (whole inside).inside inside, steady⟩

end Anchored

theorem Enters.anchored {depth : Nat} (entered : Enters work link depth body entry)
    (anchored : Anchored link) :
    Anchored entry ∧ entry.connection.level = link.connection.level + depth ∧
      entry.connection.pretending = link.connection.pretending := by
  induction entered with
  | here => exact ⟨anchored, rfl, rfl⟩
  | inside begins _ ih =>
      obtain ⟨deeper, level, pretending⟩ := anchored.begin begins
      obtain ⟨reached, depth, silence⟩ := ih deeper
      exact ⟨reached, by omega, silence.trans pretending⟩
  | afterScope ended _ ih =>
      obtain ⟨left, steady⟩ := anchored.scope ended
      obtain ⟨reached, depth, silence⟩ := ih left
      exact ⟨reached, by rw [depth, steady.level], silence.trans steady.pretending⟩
  | afterAsk ended _ ih =>
      obtain ⟨answered, steady⟩ := anchored.run ended
      obtain ⟨reached, depth, silence⟩ := ih answered
      exact ⟨reached, by rw [depth, steady.level], silence.trans steady.pretending⟩

/-- Every scope of a run is left at the depth at which it was entered. An outermost one that is
opened is committed or rolled back on its session, with nothing but the requests of its body
between; one inside another sends no control. -/
theorem scopes_settle {depth : Nat} (outside : link.connection.level = 0)
    (entered : Enters work link depth body entry) :
    ∃ result after, Ends (Link.transaction body.perform) entry result after ∧
      entry.connection.level = depth ∧ after.connection.level = depth ∧
      (link.connection.pretending = true → after.events = entry.events) ∧
      (link.connection.pretending = false → depth = 0 →
        Link.Conducts body.perform body.requests entry result after) ∧
      (link.connection.pretending = false → depth ≠ 0 → ∃ session,
        entry.connection.write = some session ∧
          Link.Talks session (body.requests (entry.atLevel (depth + 1))) entry after) := by
  obtain ⟨anchored, level, pretends⟩ := entered.anchored (.inl outside)
  obtain ⟨result, after, ended⟩ := Ends.exists (Link.transaction body.perform) entry
  have reached : entry.connection.level = depth := by omega
  have left := (anchored.scope ended).2.level.trans reached
  refine ⟨result, after, ended, reached, left, ?_, ?_, ?_⟩
  · intro pretending
    have kept := (Link.transaction_pretending (pretends.trans pretending) silent ended).2
    rw [Link.events, Link.events, kept]
  · rintro talking rfl
    exact (Link.of_transaction_outermost reached (pretends.trans talking) talks ended).2
  · intro talking nested
    rcases anchored with outermost | pretending | ⟨session, inside⟩
    · exact absurd (reached.symm.trans outermost) nested
    · rw [pretends, talking] at pretending
      cases pretending
    · have talked := inside.transaction talks ended
      rw [reached] at talked
      exact ⟨session, inside.write, talked⟩

def failing : Work Unit :=
  ask (.execute ⟨"INSERT INTO users (name) VALUES (?)", [.text "b"]⟩) fun _ =>
    fail (.invalidArgument .noTransaction)

/-- The failure of one scope is swallowed by another. -/
def swallowing : Work Unit :=
  scope (scope failing fun _ => done ()) fun _ => done ()

/-- A connection whose database refuses to commit, and to roll back then. -/
def refusing : Link Script where
  connection :=
    { name := "main", config := { driver := "sqlite" }, vendor := .sqlite, marker := .question,
      write := some ⟨0, "write", none⟩, read := none, logging := false }
  database := { commits := [some "disk full"], rollbacks := [some "disk full"] }

theorem failing_scope_settles :
    let entry := (ending Link.begin refusing).2
    ∃ result after session, Ends (Link.transaction failing.perform) entry result after ∧
      after.connection.level = 1 ∧ entry.connection.write = some session ∧
        Link.Talks session (failing.requests (entry.atLevel 2)) entry after := by
  have entered : Enters swallowing refusing 1 failing (ending Link.begin refusing).2 :=
    .inside rfl .here
  obtain ⟨result, after, ended, -, level, -, -, nested⟩ := scopes_settle rfl entered
  obtain ⟨session, write, talked⟩ := nested rfl (by decide)
  exact ⟨result, after, session, ended, level, write, talked⟩

end Work

end SqlToolkit
