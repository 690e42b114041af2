import SqlToolkit.Proofs.Transactions.Operations
/-!
The boundaries of transactions. All but the outermost are only counted, and so is every one while
pretending; the outermost is opened and closed by the database.
-/

namespace SqlToolkit

namespace Link

/-! How a boundary goes -/

section Cases

variable {σ : Type} [Database σ] {before after : Link σ} {result : Except Error Unit}

def atLevel (link : Link σ) (level : Nat) : Link σ :=
  { link with connection := { link.connection with level } }

/-- A boundary that does not go to the database is inside another one, or pretended. -/
theorem counted_of_not {connection : Connection} {level : Nat}
    (inside : ¬(connection.level = level ∧ (!connection.pretending) = true)) :
    connection.level ≠ level ∨ connection.pretending = true :=
  (Decidable.not_and_iff_not_or_not.mp inside).imp_right fun pretending => by simpa using pretending

theorem begin_cases (ended : Ends begin before result after) :
    ((before.connection.level ≠ 0 ∨ before.connection.pretending = true) ∧ result = .ok () ∧
        after = before.atLevel (before.connection.level + 1)) ∨
      (before.connection.level = 0 ∧ before.connection.pretending = false ∧ ∃ begun,
        Ends (persist Error.driver (tryControl .begin)) before result begun ∧
          after = begun.atLevel (begun.connection.level + result.isOk.toNat)) := by
  unfold begin at ended
  have rest := of_current ended
  split at rest
  · rename_i opens
    refine .inr ⟨opens.1, by simpa using opens.2, ?_⟩
    rcases rest.of_bind with ⟨error, failed, rfl⟩ | ⟨_, begun, accepted, rest⟩
    · exact ⟨after, failed, rfl⟩
    · obtain ⟨rfl, rfl⟩ := of_change rest
      exact ⟨begun, accepted, rfl⟩
  · rename_i counted
    obtain ⟨rfl, rfl⟩ := of_change rest
    exact .inl ⟨counted_of_not counted, rfl, rfl⟩

/-- Without a transaction there is nothing to commit. -/
theorem commit_cases (ended : Ends commit before result after) :
    (before.connection.level = 0 ∧ result = .error (.invalidArgument .noTransaction) ∧
        after = before) ∨
      (before.connection.level ≠ 0 ∧
        (before.connection.level ≠ 1 ∨ before.connection.pretending = true) ∧ result = .ok () ∧
        after = before.atLevel (before.connection.level - 1)) ∨
      (before.connection.level = 1 ∧ before.connection.pretending = false ∧ ∃ committed,
        Ends ((tryControl .commit).adaptExcept Error.driver) before result committed ∧
          after = committed.atLevel (committed.connection.level - result.isOk.toNat)) := by
  unfold commit at ended
  have rest := of_current ended
  by_cases outside : before.connection.level = 0
  · rw [if_pos outside] at rest
    rcases rest.of_bind with ⟨error, failed, rfl⟩ | ⟨_, _, thrown, -⟩
    · obtain ⟨⟨⟩, rfl⟩ := failed.of_throw
      exact .inl ⟨outside, rfl, rfl⟩
    · cases thrown.of_throw.1
  · rw [if_neg outside] at rest
    refine .inr ?_
    split at rest
    · rename_i closes
      refine .inr ⟨closes.1, by simpa using closes.2, ?_⟩
      rcases rest.of_bind with ⟨error, failed, rfl⟩ | ⟨_, committed, accepted, rest⟩
      · exact ⟨after, failed, rfl⟩
      · obtain ⟨rfl, rfl⟩ := of_change rest
        exact ⟨committed, accepted, rfl⟩
    · rename_i counted
      obtain ⟨rfl, rfl⟩ := of_change rest
      exact .inl ⟨outside, counted_of_not counted, rfl, rfl⟩

theorem rollback_cases (ended : Ends rollback before result after) :
    ((before.connection.level ≠ 1 ∨ before.connection.pretending = true) ∧ result = .ok () ∧
        after = before.atLevel (before.connection.level - 1)) ∨
      (before.connection.level = 1 ∧ before.connection.pretending = false ∧
        Ends ((tryControl .rollback).adaptExcept Error.driver)
          (before.atLevel (before.connection.level - 1)) result after) := by
  unfold rollback at ended
  have rest := of_change_bind (of_current ended)
  split at rest
  · rename_i closes
    exact .inr ⟨closes.1, by simpa using closes.2, rest⟩
  · rename_i counted
    obtain ⟨rfl, rfl⟩ := rest.of_pure
    exact .inl ⟨counted_of_not counted, rfl, rfl⟩

theorem of_begin_counted
    (counted : before.connection.level ≠ 0 ∨ before.connection.pretending = true)
    (ended : Ends begin before result after) :
    result = .ok () ∧ after = before.atLevel (before.connection.level + 1) := by
  rcases begin_cases ended with ⟨-, done⟩ | ⟨outside, talking, -⟩
  · exact done
  · simp [outside, talking] at counted

theorem begin_counted
    (counted : before.connection.level ≠ 0 ∨ before.connection.pretending = true) :
    Ends begin before (.ok ()) (before.atLevel (before.connection.level + 1)) := by
  obtain ⟨result, after, ended⟩ := Ends.exists begin before
  obtain ⟨rfl, rfl⟩ := of_begin_counted counted ended
  exact ended

theorem of_begin_outside (outside : before.connection.level = 0)
    (talking : before.connection.pretending = false) (ended : Ends begin before result after) :
    ∃ begun, Ends (persist Error.driver (tryControl .begin)) before result begun ∧
      after = begun.atLevel (begun.connection.level + result.isOk.toNat) := by
  rcases begin_cases ended with ⟨counted, -⟩ | ⟨-, -, asked⟩
  · simp [outside, talking] at counted
  · exact asked

theorem of_commit_outside (outside : before.connection.level = 0)
    (ended : Ends commit before result after) :
    result = .error (.invalidArgument .noTransaction) ∧ after = before := by
  rcases commit_cases ended with ⟨-, done⟩ | ⟨opened, -⟩ | ⟨single, -⟩
  · exact done
  · exact absurd outside opened
  · omega

theorem of_commit_counted (opened : before.connection.level ≠ 0)
    (counted : before.connection.level ≠ 1 ∨ before.connection.pretending = true)
    (ended : Ends commit before result after) :
    result = .ok () ∧ after = before.atLevel (before.connection.level - 1) := by
  rcases commit_cases ended with ⟨outside, -⟩ | ⟨-, -, done⟩ | ⟨single, talking, -⟩
  · exact absurd outside opened
  · exact done
  · simp [single, talking] at counted

/-- While pretending, a commit is counted even if there is nothing to commit: zero stays zero. -/
theorem of_commit_pretending (pretending : before.connection.pretending = true)
    (ended : Ends commit before result after) :
    after = before.atLevel (before.connection.level - 1) := by
  by_cases outside : before.connection.level = 0
  · obtain ⟨-, rfl⟩ := of_commit_outside outside ended
    have same : after.connection.level - 1 = after.connection.level := by omega
    rw [same]
    rfl
  · exact (of_commit_counted outside (.inr pretending) ended).2

theorem of_rollback_counted
    (counted : before.connection.level ≠ 1 ∨ before.connection.pretending = true)
    (ended : Ends rollback before result after) :
    after = before.atLevel (before.connection.level - 1) := by
  rcases rollback_cases ended with ⟨-, -, done⟩ | ⟨single, talking, -⟩
  · exact done
  · simp [single, talking] at counted

end Cases

/-! Boundaries that the database takes part in -/

variable {σ : Type} [Recording σ] {before after : Link σ}

/-- A transaction is open on a session behind an accepted begin, or none was accepted. -/
def Begins {ε : Type} (before : Link σ) (result : Except ε Unit) (after : Link σ) : Prop :=
  ∃ opened, (∀ event ∈ opened, event.Opens) ∧
    match result with
    | .ok () => ∃ session, after.connection.write = some session ∧
        after.events = before.events ++ opened ++ [⟨.control session .begin, none⟩]
    | .error _ => after.events = before.events ++ opened

theorem Begins.prepend {ε : Type} {first : List Event} {middle : Link σ} {result : Except ε Unit}
    (begins : Begins middle result after) (opens : ∀ event ∈ first, event.Opens)
    (sent : middle.events = before.events ++ first) : Begins before result after := by
  obtain ⟨opened, each, ended⟩ := begins
  refine ⟨first ++ opened, fun event member =>
    (List.mem_append.mp member).elim (opens event) (each event), ?_⟩
  cases result with
  | ok value =>
      obtain ⟨session, write, recorded⟩ := ended
      refine ⟨session, write, ?_⟩
      rw [recorded, sent]
      simp only [List.append_assoc]
  | error error => rw [show after.events = _ from ended, sent, List.append_assoc]

theorem begins_tryControl {result : Except String Unit}
    (ended : Ends (tryControl .begin) before result after) : Begins before result after := by
  obtain ⟨kept, ⟨-, silent, refused⟩ | ⟨session, refusal, write, recorded, accepted⟩⟩ :=
    of_tryControl ended
  · cases result with
    | ok value => exact absurd rfl refused
    | error reason => exact ⟨[], by simp, silent.trans (List.append_nil _).symm⟩
  · cases result with
    | ok value =>
        obtain rfl := accepted.mpr rfl
        exact ⟨[], by simp, session, by rw [kept, write], by rw [recorded, List.append_nil]⟩
    | error reason =>
        cases refusal with
        | none => cases accepted.mp rfl
        | some words =>
            exact ⟨[⟨.control session .begin, some words⟩], by simp [Event.Opens], recorded⟩

theorem begins_persist {result : Except Error Unit}
    (ended : Ends (persist Error.driver (tryControl .begin)) before result after) :
    Begins before result after := by
  have reworded : ∀ {start final : Link σ} {inner : Except String Unit},
      Begins start inner final → Begins start (inner.mapError Error.driver) final := by
    intro start final inner begins
    cases inner <;> exact begins
  rcases of_persist ended with ⟨inner, tried, rfl, -⟩ | ⟨reason, middle, tried, -, next⟩
  · exact reworded (begins_tryControl tried)
  · obtain ⟨refused, each, sent⟩ := begins_tryControl tried
    rcases next with ⟨error, failed, rfl⟩ | ⟨renewed, inner, opened, again, rfl⟩
    · obtain ⟨-, connects, recorded, all⟩ := of_reconnect failed
      have begins : Begins middle (.error error) after :=
        ⟨connects, fun event member => .inl (all event member), recorded⟩
      exact begins.prepend each sent
    · obtain ⟨-, connects, recorded, all⟩ := of_reconnect opened
      have begins := (reworded (begins_tryControl again)).prepend
        (fun event member => .inl (all event member)) recorded
      exact begins.prepend each sent

/-- The outermost begin: the database accepts it, or the transaction is not open. -/
theorem of_begin {result : Except Error Unit} (outside : before.connection.level = 0)
    (talking : before.connection.pretending = false) (ended : Ends begin before result after) :
    Begins before result after ∧ after.connection.pretending = false ∧
      after.connection.level = result.isOk.toNat := by
  have kept : ∀ {start inner final}, Ends (tryControl (σ := σ) .begin) start inner final →
      final.connection = start.connection :=
    fun tried => (of_tryControl tried).1
  obtain ⟨begun, persisted, rfl⟩ := of_begin_outside outside talking ended
  have steady := steady_persist kept persisted
  have begins : Begins before result begun := begins_persist persisted
  refine ⟨begins, steady.pretending.trans talking, ?_⟩
  change begun.connection.level + result.isOk.toNat = result.isOk.toNat
  rw [steady.level, outside, Nat.zero_add]

theorem of_tryControl_write {session : Session} {control : Control} {result : Except Error Unit}
    (write : before.connection.write = some session)
    (ended : Ends ((tryControl control).adaptExcept Error.driver) before result after) :
    after.connection = before.connection ∧ ∃ refusal,
      after.events = before.events ++ [⟨.control session control, refusal⟩] ∧
        (refusal = none ↔ result = .ok ()) := by
  obtain ⟨inner, tried, rfl⟩ := ended.of_adaptExcept
  obtain ⟨kept, ⟨missing, -⟩ | ⟨other, refusal, found, recorded, accepted⟩⟩ := of_tryControl tried
  · rw [write] at missing
    cases missing
  · rw [write] at found
    cases found
    refine ⟨kept, refusal, recorded, accepted.trans ?_⟩
    cases inner with
    | ok value => exact iff_of_true rfl rfl
    | error reason => exact iff_of_false nofun nofun

/-- The outermost commit; refused, it leaves the transaction open. -/
theorem of_commit {session : Session} {result : Except Error Unit}
    (single : before.connection.level = 1) (talking : before.connection.pretending = false)
    (write : before.connection.write = some session) (ended : Ends commit before result after) :
    (result = .ok () ∧ after.connection.level = 0 ∧ after.connection.pretending = false ∧
        after.events = before.events ++ [⟨.control session .commit, none⟩]) ∨
      ∃ error reason, result = .error error ∧ after.connection = before.connection ∧
        after.events = before.events ++ [⟨.control session .commit, some reason⟩] := by
  rcases commit_cases ended with ⟨outside, -⟩ | ⟨-, counted, -⟩ | ⟨-, -, committed, tried, rfl⟩
  · omega
  · simp [single, talking] at counted
  obtain ⟨kept, refusal, recorded, accepted⟩ := of_tryControl_write write tried
  cases result with
  | ok value =>
      obtain rfl := accepted.mpr rfl
      refine .inl ⟨rfl, ?_, ?_, recorded⟩
      · change committed.connection.level - 1 = 0
        rw [kept, single]
      · change committed.connection.pretending = false
        rw [kept, talking]
  | error error =>
      cases refusal with
      | none => cases accepted.mp rfl
      | some reason => exact .inr ⟨error, reason, rfl, kept, recorded⟩

/-- The outermost rollback closes the transaction, whatever the database says. -/
theorem of_rollback {session : Session} {result : Except Error Unit}
    (single : before.connection.level = 1) (talking : before.connection.pretending = false)
    (write : before.connection.write = some session) (ended : Ends rollback before result after) :
    after.connection.level = 0 ∧ after.connection.pretending = false ∧
      ∃ refusal, after.events = before.events ++ [⟨.control session .rollback, refusal⟩] := by
  rcases rollback_cases ended with ⟨counted, -⟩ | ⟨-, -, tried⟩
  · simp [single, talking] at counted
  have written :
      (before.atLevel (before.connection.level - 1)).connection.write = some session := write
  obtain ⟨kept, refusal, recorded, -⟩ := of_tryControl_write written tried
  refine ⟨?_, ?_, refusal, recorded⟩
  · rw [kept]
    change before.connection.level - 1 = 0
    rw [single]
  · rw [kept]
    exact talking

end Link

end SqlToolkit
