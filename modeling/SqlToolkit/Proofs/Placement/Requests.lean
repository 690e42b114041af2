import SqlToolkit.Query.Fetch
/-!
The requests that a program may send, whatever the database answers, and the values that it may
result in.
-/

namespace SqlToolkit

namespace Program

variable {α β : Type}

inductive Sends : Program α → Request → Prop where
  | now {request : Request} {next : request.Answer → Program α} : Sends (send request next) request
  | later {request other : Request} {next : request.Answer → Program α} (answer : request.Answer)
      (rest : Sends (next answer) other) : Sends (send request next) other
  | attached {next : Program α} {request : Request} (rest : Sends next request) :
      Sends (attached next) request

inductive Results : Program α → α → Prop where
  | result {value : α} : Results (result value) value
  | attached {next : Program α} {value : α} (rest : Results next value) :
      Results (attached next) value
  | send {request : Request} {next : request.Answer → Program α} {value : α}
      (answer : request.Answer) (rest : Results (next answer) value) :
      Results (send request next) value

theorem Sends.of_bind {program : Program α} {f : α → Program β} {request : Request}
    (sent : (program >>= f).Sends request) :
    program.Sends request ∨ ∃ value, (f value).Sends request := by
  induction program with
  | result value => exact .inr ⟨value, sent⟩
  | failure error => cases sent
  | attached next ih =>
      cases sent with
      | attached rest => exact (ih rest).imp_left .attached
  | send first next ih =>
      cases sent with
      | now => exact .inl .now
      | later answer rest => exact (ih answer rest).imp_left (.later answer)

theorem Sends.bind {program : Program α} {request : Request} (sent : program.Sends request)
    (f : α → Program β) : (program >>= f).Sends request := by
  induction sent with
  | now => exact .now
  | later answer rest ih => exact .later answer ih
  | attached rest ih => exact .attached ih

theorem Results.of_bind {program : Program α} {f : α → Program β} {value : β}
    (returned : (program >>= f).Results value) : ∃ middle, (f middle).Results value := by
  induction program with
  | result middle => exact ⟨middle, returned⟩
  | failure error => cases returned
  | attached next ih =>
      cases returned with
      | attached rest => exact ih rest
  | send request next ih =>
      cases returned with
      | send answer rest => exact ih answer rest

theorem not_sends_pure {value : α} {request : Request} :
    ¬(pure value : Program α).Sends request :=
  nofun

/-- What is done with the result of a program sends nothing more. -/
theorem sends_map_iff {program : Program α} {f : α → β} {request : Request} :
    (program >>= fun value => pure (f value)).Sends request ↔ program.Sends request := by
  constructor
  · intro sent
    exact sent.of_bind.elim id fun ⟨_, rest⟩ => absurd rest not_sends_pure
  · exact fun sent => sent.bind _

theorem sends_fetch_iff {statement : Statement} {request : Request} :
    (fetch statement).Sends request ↔ request = .fetch false statement := by
  constructor
  · intro sent
    cases sent with
    | now => rfl
    | later answer rest => cases rest
  · rintro rfl
    exact .now

theorem sends_execute_iff {statement : Statement} {request : Request} :
    (execute statement).Sends request ↔ request = .execute statement := by
  constructor
  · intro sent
    cases sent with
    | now => rfl
    | later answer rest => cases rest
  · rintro rfl
    exact .now

end Program

namespace Builder

theorem get_sends_iff {builder : Builder} {request : Request} (accepted : builder.fault = none) :
    builder.get.Sends request ↔
      request = .fetch false ⟨builder.dialect.select builder.query, builder.bindings.flatten⟩ := by
  rw [← Program.sends_fetch_iff, get, statement, sql, sound, accepted]
  rfl

end Builder

namespace Chunks

/-- What may be left of the chunks after some of them are read. -/
inductive Reaches (start : Chunks) : Chunks → Prop where
  | refl : Reaches start start
  | next {before after : Chunks} {rows : List Row} (reached : Reaches start before)
      (read : before.next.Results (some (rows, after))) : Reaches start after

theorem next_kept {chunks after : Chunks} {rows : List Row}
    (read : chunks.next.Results (some (rows, after))) :
    after.builder = chunks.builder ∧ after.size = chunks.size := by
  unfold Chunks.next at read
  split at read
  · cases read
  · obtain ⟨taken, rest⟩ := read.of_bind
    split at rest
    · cases rest
    · cases rest
      exact ⟨rfl, rfl⟩

theorem Reaches.kept {start chunks : Chunks} (reached : start.Reaches chunks) :
    chunks.builder = start.builder ∧ chunks.size = start.size := by
  induction reached with
  | refl => exact ⟨rfl, rfl⟩
  | next reached read ih =>
      obtain ⟨builder, size⟩ := next_kept read
      exact ⟨builder.trans ih.1, size.trans ih.2⟩

theorem next_sends {chunks : Chunks} {request : Request} (sent : chunks.next.Sends request) :
    (chunks.builder.forPage chunks.page chunks.size).get.Sends request := by
  unfold Chunks.next at sent
  split at sent
  · cases sent
  · rcases sent.of_bind with first | ⟨rows, rest⟩
    · exact first
    · split at rest <;> cases rest

end Chunks

end SqlToolkit
