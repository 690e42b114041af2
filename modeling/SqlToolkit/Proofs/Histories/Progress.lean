import SqlToolkit.Proofs.Histories.Table
/-!
What a history holds behind the operations of a migrator: the attempts of one direction up to the
first that is not put on record, and the operations that are made of these.
-/

namespace SqlToolkit

open Number

variable {σ : Type}

namespace History

theorem settle_nil (entries : List HistoryEntry) (batch : Int) (heading : Heading) :
    settle entries batch heading [] = entries := by
  cases heading <;> simp [settle]

theorem settle_cons (entries : List HistoryEntry) (batch : Int) (heading : Heading)
    (identifier : String) (rest : List String) :
    settle (settle entries batch heading [identifier]) batch heading rest =
      settle entries batch heading (identifier :: rest) := by
  cases heading with
  | up => simp [settle]
  | down =>
      simp only [settle, List.filter_filter]
      refine List.filter_congr fun entry _ => ?_
      simp [Bool.and_comm]

end History

open History

/-- The steps of attempts in one direction, and the entries behind them: all attempts are put on
record, or all before one that is not. -/
inductive Progress (batch : Int) (heading : Heading) (entries : List HistoryEntry) :
    List String → List Attempt → List HistoryEntry → Prop where
  | whole (identifiers : List String) :
      Progress batch heading entries identifiers
        (identifiers.map fun identifier => ⟨identifier, heading, .recorded⟩)
        (settle entries batch heading identifiers)
  | part (done : List String) (identifier : String) (rest : List String) {extent : Extent}
      (stops : extent ≠ .recorded) :
      Progress batch heading entries (done ++ identifier :: rest)
        ((done.map fun identifier => ⟨identifier, heading, .recorded⟩) ++
          [⟨identifier, heading, extent⟩])
        (settle entries batch heading done)

namespace Progress

variable {batch : Int} {heading : Heading} {entries later : List HistoryEntry}
  {identifiers : List String} {steps : List Attempt}

theorem none (batch : Int) (heading : Heading) (entries : List HistoryEntry) :
    Progress batch heading entries [] [] entries := by
  have nothing : Progress batch heading entries [] _ _ := whole []
  rwa [settle_nil] at nothing

theorem next {identifier : String}
    (progress : Progress batch heading (settle entries batch heading [identifier]) identifiers
      steps later) :
    Progress batch heading entries (identifier :: identifiers)
      (⟨identifier, heading, .recorded⟩ :: steps) later := by
  cases progress with
  | whole =>
      rw [settle_cons]
      exact whole (identifier :: identifiers)
  | part done other rest stops =>
      rw [settle_cons]
      exact part (identifier :: done) other rest stops

theorem stop {identifier : String} {rest : List String} {extent : Extent}
    (stops : extent ≠ .recorded) :
    Progress batch heading entries (identifier :: rest) [⟨identifier, heading, extent⟩] entries := by
  have stopped : Progress batch heading entries ([] ++ identifier :: rest) _ _ :=
    part [] identifier rest stops
  rwa [settle_nil] at stopped

theorem heading_eq (progress : Progress batch heading entries identifiers steps later) :
    ∀ step ∈ steps, step.heading = heading := by
  intro step member
  cases progress with
  | whole =>
      obtain ⟨identifier, -, rfl⟩ := List.mem_map.mp member
      rfl
  | part done other rest stops =>
      rcases List.mem_append.mp member with inFront | last
      · obtain ⟨identifier, -, rfl⟩ := List.mem_map.mp inFront
        rfl
      · obtain rfl := List.mem_singleton.mp last
        rfl

theorem identifier_mem (progress : Progress batch heading entries identifiers steps later) :
    ∀ step ∈ steps, step.identifier ∈ identifiers := by
  intro step member
  cases progress with
  | whole =>
      obtain ⟨identifier, present, rfl⟩ := List.mem_map.mp member
      exact present
  | part done other rest stops =>
      rcases List.mem_append.mp member with inFront | last
      · obtain ⟨identifier, present, rfl⟩ := List.mem_map.mp inFront
        exact List.mem_append_left _ present
      · obtain rfl := List.mem_singleton.mp last
        exact List.mem_append_right _ List.mem_cons_self

end Progress

namespace Migrator

variable [Database σ] {migrator : Migrator σ} {refuses : Prop}
  {Holds : List HistoryEntry → Connections σ → Prop} {entries : List HistoryEntry}
  {batch : Int} {heading : Heading}

/-- What the history holds behind an attempt. -/
theorem holds_extent (table : migrator.history.Tabular refuses Holds)
    (spares : migrator.Spares Holds) (batch : Int) (heading : Heading) (identifier : String)
    {before : Connections σ} (holds : Holds entries before) :
    (∃ after, migrator.extent batch heading identifier before = (.recorded, after) ∧
        Holds (settle entries batch heading [identifier]) after) ∨
      ∃ extent after, migrator.extent batch heading identifier before = (extent, after) ∧
        extent ≠ .recorded ∧ (extent = .completed → refuses) ∧ Holds entries after := by
  unfold extent
  cases found : migrator.registry.resolve identifier with
  | error error => exact .inr ⟨.failed, before, rfl, nofun, nofun, holds⟩
  | ok migration =>
      obtain ⟨applied, middle, applies⟩ := Ends.exists (migrator.applying migration heading) before
      have between : Holds entries middle := spares _ _ _ _ _ _ _ found holds applies
      cases applied with
      | error error =>
          simp only [applies.ending_eq]
          exact .inr ⟨.failed, middle, rfl, nofun, nofun, between⟩
      | ok _ =>
          obtain ⟨written, after, writes⟩ :=
            Ends.exists (migrator.recording batch identifier heading) middle
          rcases table.of_recording between writes with
            ⟨receipt, rfl, settled⟩ | ⟨refused, ⟨error, rfl⟩, kept⟩
          · simp only [applies.ending_eq, writes.ending_eq]
            exact .inl ⟨after, rfl, settled⟩
          · simp only [applies.ending_eq, writes.ending_eq]
            exact .inr ⟨.completed, after, rfl, nofun, fun _ => refused, kept⟩

theorem progress_passage (table : migrator.history.Tabular refuses Holds)
    (spares : migrator.Spares Holds) (batch : Int) (heading : Heading) (identifiers : List String)
    {before : Connections σ} (holds : Holds entries before) :
    ∃ later, Progress batch heading entries identifiers
        (migrator.passage batch heading identifiers before).1 later ∧
      Holds later (migrator.passage batch heading identifiers before).2 ∧
      ∀ step ∈ (migrator.passage batch heading identifiers before).1,
        step.extent = .completed → refuses := by
  induction identifiers generalizing before entries with
  | nil => exact ⟨entries, .none batch heading entries, holds, by simp [passage]⟩
  | cons identifier rest ih =>
      rcases holds_extent table spares batch heading identifier holds with
        ⟨middle, recorded, settled⟩ | ⟨extent, after, stopped, stops, refused, kept⟩
      · obtain ⟨later, progress, behind, lasts⟩ := ih settled
        rw [passage_recorded recorded]
        refine ⟨later, progress.next, behind, ?_⟩
        intro step member completed
        rcases List.mem_cons.mp member with rfl | inRest
        · cases completed
        · exact lasts step inRest completed
      · have unrecorded : (migrator.extent batch heading identifier before).1 ≠ .recorded := by
          rwa [stopped]
        rw [passage_stopped unrecorded, stopped]
        refine ⟨entries, .stop stops, kept, ?_⟩
        intro step member completed
        obtain rfl := List.mem_singleton.mp member
        exact refused completed

/-- An operation that came as far as its attempts: it succeeds just if all of them are put on
record. -/
structure Advances (refuses : Prop) (result : Except MigrationError Nat) (batch : Int)
    (heading : Heading) (entries : List HistoryEntry) (identifiers : List String)
    (steps : List Attempt) (later : List HistoryEntry) : Prop where
  progress : Progress batch heading entries identifiers steps later
  lasts : ∀ step ∈ steps, step.extent = .completed → refuses
  ends : (result = .ok identifiers.length ∧ ∀ step ∈ steps, step.extent = .recorded) ∨
    (∃ error, result = .error error) ∧ ¬ ∀ step ∈ steps, step.extent = .recorded

theorem of_attempts_bind (table : migrator.history.Tabular refuses Holds)
    (spares : migrator.Spares Holds) {identifiers : List String} {before after : Workspace σ}
    {result : Except MigrationError Nat} (holds : Holds entries before.connections)
    (ended : Ends (identifiers.forM (migrator.attempt batch heading) >>= fun _ =>
      pure identifiers.length) before result after) :
    after.files = before.files ∧ ∃ later, Holds later after.connections ∧
      Advances refuses result batch heading entries identifiers
        (migrator.passage batch heading identifiers before.connections).1 later := by
  obtain ⟨later, progress, behind, lasts⟩ :=
    progress_passage table spares batch heading identifiers holds
  rcases ended.of_bind with ⟨error, failed, rfl⟩ | ⟨_, middle, done, rest⟩
  · obtain ⟨files, connections, recorded⟩ := of_attempts failed
    have stopped : ¬ ∀ step ∈ (migrator.passage batch heading identifiers before.connections).1,
        step.extent = .recorded := fun all => nomatch recorded.mpr all
    exact ⟨files, later, connections ▸ behind, progress, lasts, .inr ⟨⟨error, rfl⟩, stopped⟩⟩
  · obtain ⟨rfl, rfl⟩ := rest.of_pure
    obtain ⟨files, connections, recorded⟩ := of_attempts done
    exact ⟨files, later, connections ▸ behind, progress, lasts, .inl ⟨rfl, recorded.mp rfl⟩⟩

theorem advances_nothing (refuses : Prop) (batch : Int) (heading : Heading)
    (entries : List HistoryEntry) :
    Advances refuses (.ok 0) batch heading entries [] [] entries :=
  ⟨.none batch heading entries, by simp, .inl ⟨rfl, by simp⟩⟩

theorem pending_congr {present ran : List String} (perm : ran.Perm (names entries)) :
    pending present ran = pending present (names entries) := by
  refine List.filter_congr fun identifier _ => ?_
  rw [perm.contains_eq]

/-- A run behind the reading of what ran: what is pending is carried out under the next number. -/
theorem of_numbered (table : migrator.history.Tabular refuses Holds)
    (spares : migrator.Spares Holds) {identifiers : List String} {before after : Workspace σ}
    {result : Except MigrationError Nat} (holds : Holds entries before.connections)
    (ended : Ends (if identifiers.isEmpty = true then
        Migrating.note "Nothing to migrate." >>= fun _ => pure 0
      else
        Migrating.managing migrator.history.nextBatch >>= fun batch =>
          identifiers.forM (migrator.attempt batch .up) >>= fun _ => pure identifiers.length)
      before result after) :
    after.files = before.files ∧ ∃ later, Holds later after.connections ∧
      ((migrator.pendingSteps identifiers before.connections = [] ∧ later = entries ∧
          (∃ error, result = .error error) ∧ refuses) ∨
        Advances refuses result (wrapSigned (highest entries + 1)) .up entries identifiers
          (migrator.pendingSteps identifiers before.connections) later) := by
  unfold pendingSteps
  by_cases nothing : identifiers = []
  · rw [if_pos (by simp [nothing])] at ended
    obtain ⟨rfl, files, connections⟩ := Migrating.of_noted ended
    refine ⟨files, entries, connections ▸ holds, .inr ?_⟩
    rw [if_pos nothing, nothing]
    exact advances_nothing _ _ _ _
  · rw [if_neg (by simpa using nothing)] at ended
    rw [if_neg nothing]
    rcases Migrating.of_managing_bind ended with
      ⟨error, numbered, failed, rfl, rfl⟩ | ⟨batch, numbered, answered, attempts⟩
    · obtain ⟨kept, replied⟩ := table.of_nextBatch holds failed
      cases replied with
      | refusal refused =>
          rw [failed.ending_eq]
          exact ⟨rfl, entries, kept, .inl ⟨rfl, rfl, ⟨_, rfl⟩, refused⟩⟩
    · obtain ⟨kept, replied⟩ := table.of_nextBatch holds answered
      cases replied with
      | answer right =>
          subst right
          obtain ⟨files, later, behind, advances⟩ := of_attempts_bind table spares kept attempts
          rw [answered.ending_eq]
          exact ⟨files, later, behind, .inr advances⟩

theorem of_run (table : migrator.history.Tabular refuses Holds) (spares : migrator.Spares Holds)
    {folder : Path} {before after : Workspace σ} {result : Except MigrationError Nat}
    (holds : Holds entries before.connections)
    (ended : Ends (migrator.run folder false) before result after) :
    after.files = before.files ∧ ∃ later, Holds later after.connections ∧
      ((migrator.runSteps folder before = [] ∧ later = entries ∧ (∃ error, result = .error error) ∧
          (refuses ∨ ∃ error, before.files.discover folder = .error error)) ∨
        ∃ present, before.files.discover folder = .ok present ∧
          Advances refuses result (wrapSigned (highest entries + 1)) .up entries
            (pending present (names entries)) (migrator.runSteps folder before) later) := by
  unfold runSteps
  rcases Migrating.of_check_bind (Migrating.of_discover_bind (Migrating.of_clearNotes_bind ended)) with
    ⟨error, missing, rfl, rfl⟩ | ⟨present, found, reads⟩
  · replace missing : before.files.discover folder = .error error := missing
    rw [missing]
    exact ⟨rfl, entries, holds, .inl ⟨rfl, rfl, ⟨error, rfl⟩, .inr ⟨error, rfl⟩⟩⟩
  replace found : before.files.discover folder = .ok present := found
  rw [found]
  rcases Migrating.of_managing_bind reads with
    ⟨error, read, failed, rfl, rfl⟩ | ⟨ran, read, answered, chooses⟩
  · obtain ⟨kept, replied⟩ := table.of_ran holds failed
    cases replied with
    | refusal refused =>
        rw [failed.ending_eq]
        exact ⟨rfl, entries, kept, .inl ⟨rfl, rfl, ⟨_, rfl⟩, .inl refused⟩⟩
  obtain ⟨kept, replied⟩ := table.of_ran holds answered
  cases replied with
  | answer perm =>
      rw [answered.ending_eq]
      rw [← pending, pending_congr perm] at chooses
      obtain ⟨files, later, behind, ended⟩ := of_numbered table spares kept chooses
      simp only [pending_congr perm]
      refine ⟨files, later, behind, ?_⟩
      rcases ended with ⟨none, same, failed, refused⟩ | advances
      · exact .inl ⟨none, same, failed, .inl refused⟩
      · exact .inr ⟨present, rfl, advances⟩

omit [Database σ] in
theorem forM_names (found : List HistoryEntry) (attempt : String → Migrating σ Unit) :
    (names found).forM attempt = found.forM fun entry => attempt entry.migration := by
  induction found with
  | nil => rfl
  | cons entry rest ih => exact congrArg (fun more => attempt entry.migration >>= fun _ => more) ih

theorem of_undoing (table : migrator.history.Tabular refuses Holds)
    (spares : migrator.Spares Holds) {find : Managing σ (List HistoryEntry)}
    {chosen : List HistoryEntry} {before after : Workspace σ} {result : Except MigrationError Nat}
    (reads : ∀ {reply reached}, Ends find before.connections reply reached →
      Holds entries reached ∧ Replies refuses (LastFirst chosen) reply)
    (ended : Ends (Migrating.clearNotes >>= fun _ => Migrating.managing find >>= fun found =>
      migrator.undoAll false found) before result after) :
    after.files = before.files ∧ ∃ later, Holds later after.connections ∧
      ((migrator.undoSteps find before.connections = [] ∧ later = entries ∧
          (∃ error, result = .error error) ∧ refuses) ∨
        ∃ found, LastFirst chosen found ∧ Advances refuses result 0 .down entries (names found)
          (migrator.undoSteps find before.connections) later) := by
  unfold undoSteps
  rcases Migrating.of_managing_bind (Migrating.of_clearNotes_bind ended) with
    ⟨error, read, failed, rfl, rfl⟩ | ⟨found, read, answered, undoes⟩
  · obtain ⟨kept, replied⟩ := reads failed
    cases replied with
    | refusal refused =>
        rw [failed.ending_eq]
        exact ⟨rfl, entries, kept, .inl ⟨rfl, rfl, ⟨_, rfl⟩, refused⟩⟩
  · obtain ⟨kept, replied⟩ := reads answered
    cases replied with
    | answer right =>
        rw [answered.ending_eq]
        unfold undoAll at undoes
        split at undoes
        · rename_i nothing
          obtain rfl := List.isEmpty_iff.mp nothing
          obtain ⟨rfl, files, connections⟩ := Migrating.of_noted undoes
          refine ⟨files, entries, connections ▸ kept, .inr ⟨[], right, ?_⟩⟩
          exact advances_nothing refuses 0 .down entries
        · have attempts : Ends ((names found).forM (migrator.attempt 0 .down) >>= fun _ =>
              pure (names found).length) { before with notes := [], connections := read } result
                after := by
            rw [forM_names, names, List.length_map]
            exact undoes
          obtain ⟨files, later, behind, advances⟩ := of_attempts_bind table spares kept attempts
          exact ⟨files, later, behind, .inr ⟨found, right, advances⟩⟩

theorem of_rollback (table : migrator.history.Tabular refuses Holds)
    (spares : migrator.Spares Holds) {before after : Workspace σ}
    {result : Except MigrationError Nat} (holds : Holds entries before.connections)
    (ended : Ends (migrator.rollback false) before result after) :
    after.files = before.files ∧ ∃ later, Holds later after.connections ∧
      ((migrator.undoSteps migrator.history.lastEntries before.connections = [] ∧
          later = entries ∧ (∃ error, result = .error error) ∧ refuses) ∨
        ∃ found, LastFirst (entries.filter fun entry => entry.batch = highest entries) found ∧
          Advances refuses result 0 .down entries (names found)
            (migrator.undoSteps migrator.history.lastEntries before.connections) later) :=
  of_undoing table spares (table.of_lastEntries holds) ended

theorem of_reset (table : migrator.history.Tabular refuses Holds)
    (spares : migrator.Spares Holds) {before after : Workspace σ}
    {result : Except MigrationError Nat} (holds : Holds entries before.connections)
    (ended : Ends (migrator.reset false) before result after) :
    after.files = before.files ∧ ∃ later, Holds later after.connections ∧
      ((migrator.undoSteps migrator.history.entries before.connections = [] ∧
          later = entries ∧ (∃ error, result = .error error) ∧ refuses) ∨
        ∃ found, LastFirst entries found ∧ Advances refuses result 0 .down entries (names found)
          (migrator.undoSteps migrator.history.entries before.connections) later) :=
  of_undoing table spares (table.of_entries holds) ended

/-- A refresh resets, and runs just if that succeeds; it then keeps the notes on both. -/
theorem of_refresh {folder : Path} {before after : Workspace σ}
    {result : Except MigrationError Nat}
    (ended : Ends (migrator.refresh folder false) before result after) :
    (∃ error, Ends (migrator.reset false) before (.error error) after ∧ result = .error error) ∨
      ∃ count emptied final, Ends (migrator.reset false) before (.ok count) emptied ∧
        Ends (migrator.run folder false) emptied result final ∧
        after.connections = final.connections ∧ after.files = final.files ∧
        after.notes = emptied.notes ++ final.notes := by
  unfold refresh at ended
  rcases ended.of_bind with ⟨error, failed, rfl⟩ | ⟨count, emptied, resets, rest⟩
  · exact .inl ⟨error, failed, rfl⟩
  · replace rest : Ends (outcome (migrator.run folder false) >>= fun inner =>
        (modify fun workspace =>
          { workspace with notes := emptied.notes ++ workspace.notes }) >>= fun _ =>
            Migrating.check inner) emptied result after := rest
    obtain ⟨inner, final, runs, noted⟩ := rest.of_outcome_bind
    replace noted : Ends (Migrating.check inner)
      { final with notes := emptied.notes ++ final.notes } result after := noted
    obtain ⟨rfl, rfl⟩ := Migrating.of_check noted
    exact .inr ⟨count, emptied, final, resets, runs, rfl, rfl, rfl⟩

end Migrator

end SqlToolkit
