import SqlToolkit.Proofs.Histories.Course
/-!
Operations whose migrations all succeed, on a history whose statements are not refused: each attempt
is put on record, and the operation comes to its end.
-/

namespace SqlToolkit

open History Number

theorem History.settle_down_perm {entries : List HistoryEntry} {batch : Int}
    {identifiers others : List String} (perm : identifiers.Perm others) :
    settle entries batch .down identifiers = settle entries batch .down others := by
  refine List.filter_congr fun entry _ => ?_
  rw [perm.contains_eq]

/-- Each of these migrations is found, and succeeds wherever the history tells that it is still to
be carried out, or to be undone. -/
def Migrator.Completes {σ : Type} [Database σ] (migrator : Migrator σ)
    (Holds : List HistoryEntry → Connections σ → Prop) (heading : Heading)
    (identifiers : List String) : Prop :=
  ∀ identifier ∈ identifiers, ∃ migration, migrator.registry.resolve identifier = .ok migration ∧
    ∀ entries before result after, Holds entries before →
      (identifier ∈ names entries ↔ heading = .down) →
        Ends (migrator.applying migration heading) before result after → result = .ok ()

namespace Migrator

variable {σ : Type} [Database σ] {migrator : Migrator σ}
  {Holds : List HistoryEntry → Connections σ → Prop} {entries chosen : List HistoryEntry}
  {batch : Int} {heading : Heading} {identifiers : List String}

theorem Completes.mono {fewer : List String} (completes : migrator.Completes Holds heading identifiers)
    (sub : fewer ⊆ identifiers) : migrator.Completes Holds heading fewer :=
  fun identifier member => completes identifier (sub member)

theorem Completes.extent_ne_failed {identifier : String} {before : Connections σ}
    (completes : migrator.Completes Holds heading identifiers) (member : identifier ∈ identifiers)
    (holds : Holds entries before) (fresh : identifier ∈ names entries ↔ heading = .down) :
    (migrator.extent batch heading identifier before).1 ≠ .failed := by
  obtain ⟨migration, found, succeeds⟩ := completes identifier member
  obtain ⟨result, applied, applies⟩ := Ends.exists (migrator.applying migration heading) before
  obtain rfl := succeeds entries before result applied holds fresh applies
  obtain ⟨written, after, writes⟩ :=
    Ends.exists (migrator.recording batch identifier heading) applied
  unfold extent
  rw [found]
  cases written with
  | ok receipt => simp [applies.ending_eq, writes.ending_eq]
  | error error => simp [applies.ending_eq, writes.ending_eq]

/-- All attempts are put on record if none of them fails: those before one leave what it finds in
the history as it was. -/
theorem Completes.recorded (completes : migrator.Completes Holds heading identifiers)
    (table : migrator.history.Tabular False Holds) (spares : migrator.Spares Holds)
    (apart : identifiers.Nodup)
    (fresh : ∀ identifier ∈ identifiers, (identifier ∈ names entries ↔ heading = .down))
    {before : Connections σ} (holds : Holds entries before) :
    ∀ step ∈ (migrator.passage batch heading identifiers before).1, step.extent = .recorded := by
  induction identifiers generalizing entries before with
  | nil => simp [passage]
  | cons identifier rest ih =>
      rcases holds_extent table spares batch heading identifier holds with
        ⟨middle, recorded, settled⟩ | ⟨extent, after, stopped, stops, refused, -⟩
      · rw [passage_recorded recorded]
        intro step member
        rcases List.mem_cons.mp member with rfl | later
        · rfl
        have distinct := List.nodup_cons.mp apart
        refine ih (completes.mono (List.subset_cons_self _ _)) distinct.2 ?_ settled step later
        intro other among
        have ne : other ∉ [identifier] := by
          rintro same
          exact distinct.1 (List.mem_singleton.mp same ▸ among)
        rw [mem_names_settle, if_neg ne]
        exact fresh other (List.mem_cons_of_mem _ among)
      · have lasts : (migrator.extent batch heading identifier before).1 ≠ .failed :=
          completes.extent_ne_failed List.mem_cons_self holds (fresh identifier List.mem_cons_self)
        rw [stopped] at lasts
        cases extent with
        | failed => exact absurd rfl lasts
        | completed => exact (refused rfl).elim
        | recorded => exact absurd rfl stops

/-- A run whose migrations succeed carries out all that is pending. -/
theorem Completes.run {folder : Path} {present : List String} {before : Workspace σ}
    (completes : migrator.Completes Holds .up (pending present (names entries)))
    (table : migrator.history.Tabular False Holds) (spares : migrator.Spares Holds)
    (found : before.files.discover folder = .ok present) (apart : present.Nodup)
    (holds : Holds entries before.connections) :
    ∃ after, Ends (migrator.run folder false) before
        (.ok (pending present (names entries)).length) after ∧ after.files = before.files ∧
      Holds (settle entries (wrapSigned (highest entries + 1)) .up (pending present (names entries)))
        after.connections ∧
      migrator.runSteps folder before =
        (pending present (names entries)).map fun identifier => ⟨identifier, .up, .recorded⟩ := by
  have recorded : ∀ step ∈ migrator.runSteps folder before, step.extent = .recorded := by
    obtain ⟨reply, read, reads⟩ := Ends.exists migrator.history.ran before.connections
    obtain ⟨kept, replied⟩ := table.of_ran holds reads
    cases replied with
    | refusal refused => exact refused.elim
    | answer perm =>
        unfold runSteps
        rw [found]
        simp only [reads.ending_eq, pending_congr perm]
        obtain ⟨number, numbered, numbers⟩ := Ends.exists migrator.history.nextBatch read
        obtain ⟨again, replied⟩ := table.of_nextBatch kept numbers
        unfold pendingSteps
        split
        · simp
        cases replied with
        | refusal refused => exact refused.elim
        | answer right =>
            simp only [numbers.ending_eq]
            refine completes.recorded table spares (apart.filter _) (fun identifier member => ?_) again
            simpa using not_mem_of_pending identifier member
  obtain ⟨result, after, ended⟩ := Ends.exists (migrator.run folder false) before
  obtain ⟨files, later, behind, ⟨-, -, -, refused | ⟨error, missing⟩⟩ | ⟨there, same, advances⟩⟩ :=
    of_run table spares holds ended
  · exact refused.elim
  · rw [found] at missing
    cases missing
  · rw [found] at same
    cases same
    obtain ⟨rfl, steps, rfl⟩ := advances.whole recorded
    exact ⟨after, ended, files, behind, steps⟩

/-- The last identifiers first. -/
def descending (identifiers : List String) : List String :=
  identifiers.mergeSort fun first second => second ≤ first

theorem descending_perm (identifiers : List String) : (descending identifiers).Perm identifiers :=
  List.mergeSort_perm _ _

theorem descending_pairwise (identifiers : List String) :
    (descending identifiers).Pairwise fun first second => second ≤ first :=
  descending_mergeSort id identifiers

/-- There is one way to put identifiers in descending order. -/
theorem eq_descending {identifiers order : List String} (perm : order.Perm identifiers)
    (falls : order.Pairwise fun first second => second ≤ first) : order = descending identifiers :=
  List.Perm.eq_of_pairwise (fun _ _ _ _ one other => String.le_antisymm other one) falls
    (descending_pairwise identifiers) (perm.trans (descending_perm identifiers).symm)

theorem names_lastFirst {found : List HistoryEntry} (told : LastFirst chosen found) :
    names found = descending (names chosen) :=
  eq_descending (told.1.map _) (List.pairwise_map.mpr told.2)

/-- What is chosen is undone in descending order. -/
theorem Completes.undoes {find : Managing σ (List HistoryEntry)} {before after : Workspace σ}
    {result : Except MigrationError Nat}
    (completes : migrator.Completes Holds .down (names chosen))
    (table : migrator.history.Tabular False Holds) (spares : migrator.Spares Holds)
    (sub : ∀ entry ∈ chosen, entry ∈ entries) (apart : (names chosen).Nodup)
    (reads : ∀ {reply reached}, Ends find before.connections reply reached →
      Holds entries reached ∧ Replies False (LastFirst chosen) reply)
    (ended : Ends (Migrating.clearNotes >>= fun _ => Migrating.managing find >>= fun found =>
      migrator.undoAll false found) before result after) :
    result = .ok chosen.length ∧
      Holds (settle entries 0 .down (names chosen)) after.connections ∧
      migrator.undoSteps find before.connections =
        (descending (names chosen)).map fun identifier => ⟨identifier, .down, .recorded⟩ := by
  have same : (descending (names chosen)).length = chosen.length := by
    rw [(descending_perm _).length_eq, names, List.length_map]
  have recorded : ∀ step ∈ migrator.undoSteps find before.connections,
      step.extent = .recorded := by
    obtain ⟨reply, reached, found⟩ := Ends.exists find before.connections
    obtain ⟨kept, replied⟩ := reads found
    cases replied with
    | refusal refused => exact refused.elim
    | answer told =>
        unfold undoSteps
        simp only [found.ending_eq]
        rw [← names, names_lastFirst told]
        refine (completes.mono (descending_perm _).subset).recorded table spares
          ((descending_perm _).nodup_iff.mpr apart) (fun identifier member => ?_) kept
        obtain ⟨entry, there, rfl⟩ := List.mem_map.mp ((descending_perm _).subset member)
        exact iff_of_true (List.mem_map_of_mem (sub entry there)) rfl
  obtain ⟨-, later, behind, ⟨-, -, -, refused⟩ | ⟨found, told, advances⟩⟩ :=
    of_undoing table spares reads ended
  · exact refused.elim
  · rw [names_lastFirst told] at advances
    obtain ⟨rfl, steps, rfl⟩ := advances.whole recorded
    rw [settle_down_perm (descending_perm _)] at behind
    exact ⟨congrArg _ same, behind, steps⟩

end Migrator

end SqlToolkit
