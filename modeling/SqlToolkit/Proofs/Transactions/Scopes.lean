import SqlToolkit.Proofs.Transactions.Boundaries
/-!
Scoped transactions: how a scope is closed behind its body, and what one scope does to a connection,
whichever action its body is.
-/

namespace SqlToolkit

variable {σ α : Type}

/-- What a session is told at the end of a transaction, by the end of the body and of the scope:
a commit, a refused commit and a rollback, or a rollback. -/
inductive Closes (session : Session) : Except Error α → Except Error α → List Event → Prop
  | committed (value : α) :
      Closes session (.ok value) (.ok value) [⟨.control session .commit, none⟩]
  | refused (value : α) (error : Error) (reason : String) (refusal : Option String) :
      Closes session (.ok value) (.error error)
        [⟨.control session .commit, some reason⟩, ⟨.control session .rollback, refusal⟩]
  | failed (error : Error) (refusal : Option String) :
      Closes session (.error error) (.error error) [⟨.control session .rollback, refusal⟩]

namespace Link

variable [Recording σ] {action : Action σ α} {before after : Link σ} {result : Except Error α}

/-- A scope after its body: the commit is accepted, or the scope is rolled back. -/
inductive Settles (final : Link σ) : Except Error α → Except Error α → Link σ → Prop
  | committed {value : α} {after : Link σ} (accepted : Ends commit final (.ok ()) after) :
      Settles final (.ok value) (.ok value) after
  | refused {value : α} {error : Error} {opened after : Link σ} {undone : Except Error Unit}
      (refusal : Ends commit final (.error error) opened)
      (undoing : Ends rollback opened undone after) : Settles final (.ok value) (.error error) after
  | failed {error : Error} {after : Link σ} {undone : Except Error Unit}
      (undoing : Ends rollback final undone after) :
      Settles final (.error error) (.error error) after

/-- An outermost scope is not opened; or it is opened on the session for writing, asked the requests
of its body there, and closed there. -/
inductive Conducts (action : Action σ α) (requests : Link σ → List Request) (before : Link σ) :
    Except Error α → Link σ → Prop
  | unopened {error : Error} {after : Link σ} {opened : List Event}
      (begins : Ends begin before (.error error) after)
      (sent : after.events = before.events ++ opened)
      (opens : ∀ event ∈ opened, event.Opens) : Conducts action requests before (.error error) after
  | opened {session : Session} {begun final after : Link σ} {inner result : Except Error α}
      {opened asked closing : List Event} (begins : Ends begin before (.ok ()) begun)
      (write : begun.connection.write = some session) (performed : Ends action begun inner final)
      (sent : after.events =
        before.events ++ opened ++ [⟨.control session .begin, none⟩] ++ asked ++ closing)
      (opens : ∀ event ∈ opened, event.Opens)
      (asks : asked.map Event.call = (requests begun).map (Call.answer session))
      (closes : Closes session inner result closing) : Conducts action requests before result after

theorem of_transaction (ended : Ends (transaction action) before result after) :
    (∃ error, Ends begin before (.error error) after ∧ result = .error error) ∨
      ∃ begun inner final, Ends begin before (.ok ()) begun ∧ Ends action begun inner final ∧
        Settles final inner result after := by
  unfold transaction at ended
  rcases ended.of_bind with ⟨error, failed, rfl⟩ | ⟨_, begun, accepted, rest⟩
  · exact .inl ⟨error, failed, rfl⟩
  refine .inr ⟨begun, ?_⟩
  obtain ⟨outer, middle, tried, rest⟩ := rest.of_outcome_bind
  have undo : ∀ {error : Error}, outer = .error error → ∃ undone,
      Ends rollback middle undone after ∧ result = .error error := by
    rintro error rfl
    obtain ⟨undone, _, rolled, thrown⟩ := rest.of_outcome_bind
    obtain ⟨rfl, rfl⟩ := thrown.of_throw
    exact ⟨undone, rolled, rfl⟩
  rcases tried.of_bind with ⟨error, failed, rfl⟩ | ⟨value, final, performed, tried⟩
  · obtain ⟨undone, undoing, rfl⟩ := undo rfl
    exact ⟨.error error, middle, accepted, failed, .failed undoing⟩
  refine ⟨.ok value, final, accepted, performed, ?_⟩
  rcases tried.of_bind with ⟨error, refusal, rfl⟩ | ⟨_, closed, committed, tried⟩
  · obtain ⟨undone, undoing, rfl⟩ := undo rfl
    exact .refused refusal undoing
  · obtain ⟨rfl, rfl⟩ := tried.of_pure
    obtain ⟨rfl, rfl⟩ := rest.of_pure
    exact .committed committed

/-- A scope that is only counted leaves nothing behind but what its body does. -/
theorem of_transaction_counted
    (counted : before.connection.level ≠ 0 ∨ before.connection.pretending = true)
    (steady : ∀ {inner final},
      Ends action (before.atLevel (before.connection.level + 1)) inner final →
        Steady (before.atLevel (before.connection.level + 1)) final)
    (ended : Ends (transaction action) before result after) :
    ∃ final, Ends action (before.atLevel (before.connection.level + 1)) result final ∧
      after = final.atLevel before.connection.level := by
  rcases of_transaction ended with ⟨error, failed, -⟩ | ⟨begun, inner, final, begins, performed,
    settled⟩
  · cases (of_begin_counted counted failed).1
  obtain ⟨-, rfl⟩ := of_begin_counted counted begins
  have level : final.connection.level = before.connection.level + 1 := (steady performed).level
  have still : final.connection.level ≠ 1 ∨ final.connection.pretending = true := by
    rcases counted with nested | pretending
    · exact .inl (by omega)
    · exact .inr ((steady performed).pretending.trans pretending)
  have lowered : final.connection.level - 1 = before.connection.level := by omega
  cases settled with
  | committed accepted =>
      obtain ⟨-, rfl⟩ := of_commit_counted (by omega) still accepted
      exact ⟨final, performed, by rw [lowered]⟩
  | refused refusal undoing => cases (of_commit_counted (by omega) still refusal).1
  | failed undoing =>
      obtain rfl := of_rollback_counted still undoing
      exact ⟨final, performed, by rw [lowered]⟩

variable {requests : Link σ → List Request}

theorem Inside.transaction {session : Session} (inside : Inside session before)
    (talks : ∀ {begun inner final}, Inside session begun → Ends action begun inner final →
      Talks session (requests begun) begun final)
    (ended : Ends (transaction action) before result after) :
    Talks session (requests (before.atLevel (before.connection.level + 1))) before after := by
  have deeper : Inside session (before.atLevel (before.connection.level + 1)) :=
    ⟨Nat.succ_pos _, inside.write, inside.talking⟩
  have nested : before.connection.level ≠ 0 := Nat.one_le_iff_ne_zero.mp inside.nested
  obtain ⟨final, performed, rfl⟩ :=
    of_transaction_counted (.inl nested) (fun performed => (talks deeper performed).toSteady) ended
  have talked := talks deeper performed
  exact ⟨⟨rfl, talked.pretending⟩, talked.write, talked.asked⟩

theorem of_transaction_outermost (outside : before.connection.level = 0)
    (talking : before.connection.pretending = false)
    (talks : ∀ {session begun inner final}, Inside session begun → Ends action begun inner final →
      Talks session (requests begun) begun final)
    (ended : Ends (transaction action) before result after) :
    Steady before after ∧ Conducts action requests before result after := by
  have steady : after.connection.level = 0 → after.connection.pretending = false →
      Steady before after :=
    fun left quiet => ⟨left.trans outside.symm, quiet.trans talking.symm⟩
  rcases of_transaction ended with ⟨error, failed, rfl⟩ | ⟨begun, inner, final, begins, performed,
    settled⟩
  · obtain ⟨⟨opened, opens, sent⟩, quiet, left⟩ := of_begin outside talking failed
    exact ⟨steady left quiet, .unopened failed sent opens⟩
  obtain ⟨⟨opened, opens, session, write, sent⟩, quiet, level⟩ := of_begin outside talking begins
  have talked := talks ⟨Nat.le_of_eq level.symm, write, quiet⟩ performed
  obtain ⟨asked, recorded, asks⟩ := talked.asked
  have single : final.connection.level = 1 := talked.level.trans level
  have still : final.connection.pretending = false := talked.pretending.trans quiet
  have written : final.connection.write = some session := talked.write.trans write
  have conducts : ∀ {closing}, Closes session inner result closing →
      after.events = final.events ++ closing → Conducts action requests before result after :=
    fun closes told =>
      .opened begins write performed (by rw [told, recorded, sent]) opens asks closes
  cases settled with
  | committed accepted =>
      rcases of_commit single still written accepted with ⟨-, left, quiet, told⟩ | ⟨_, _, same, -⟩
      · exact ⟨steady left quiet, conducts (.committed _) told⟩
      · cases same
  | refused refusal undoing =>
      rcases of_commit single still written refusal with ⟨same, -⟩ | ⟨error, reason, same, kept,
        told⟩
      · cases same
      · cases same
        obtain ⟨left, quiet, answer, undone⟩ :=
          of_rollback (by rw [kept, single]) (by rw [kept, still]) (by rw [kept, written]) undoing
        refine ⟨steady left quiet, conducts (.refused _ _ reason answer) ?_⟩
        rw [undone, told]
        simp only [List.append_assoc, List.cons_append, List.nil_append]
  | failed undoing =>
      obtain ⟨left, quiet, answer, undone⟩ := of_rollback single still written undoing
      exact ⟨steady left quiet, conducts (.failed _ answer) undone⟩

/-- While pretending, a scope changes neither the depth nor the database. -/
theorem transaction_pretending (pretending : before.connection.pretending = true)
    (silent : ∀ {begun inner final}, begun.connection.pretending = true →
      Ends action begun inner final → Steady begun final ∧ final.database = begun.database)
    (ended : Ends (transaction action) before result after) :
    Steady before after ∧ after.database = before.database := by
  have deeper :
      (before.atLevel (before.connection.level + 1)).connection.pretending = true := pretending
  obtain ⟨final, performed, rfl⟩ := of_transaction_counted (.inr pretending)
    (fun performed => (silent deeper performed).1) ended
  obtain ⟨steady, same⟩ := silent deeper performed
  exact ⟨⟨rfl, steady.pretending⟩, same⟩

end Link

end SqlToolkit
