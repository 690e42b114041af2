import SqlToolkit.Proofs.Histories.Ledger
import SqlToolkit.Proofs.Histories.Progress
/-!
Which migrations are in force behind a number of steps, and when a history tells exactly these.
-/

namespace SqlToolkit

open History Number

/-- The direction of the last step of an identifier that was completed, if there is one. -/
def lastCompleted (steps : List Attempt) (identifier : String) : Option Heading :=
  (steps.filter fun step => step.identifier = identifier ∧ step.extent ≠ .failed).getLast?.map
    Attempt.heading

/-- The last step of the identifier to complete was to carry it out; without one, it is in force if
it was an entry at the start. -/
def InForce (entries : List HistoryEntry) (steps : List Attempt) (identifier : String) : Prop :=
  (lastCompleted steps identifier).elim (identifier ∈ names entries) (· = .up)

/-- The history holds just the identifiers that are in force. -/
def InStep (entries : List HistoryEntry) (steps : List Attempt) (later : List HistoryEntry) : Prop :=
  ∀ identifier, identifier ∈ names later ↔ InForce entries steps identifier

/-- Every completed step is put on record, itself or by another step of its kind. -/
def Documented (steps : List Attempt) : Prop :=
  ∀ step ∈ steps, step.extent ≠ .failed → ∃ record ∈ steps,
    record.identifier = step.identifier ∧ record.heading = step.heading ∧
      record.extent = .recorded

/-- The migrations in force behind a step, the one that was carried out last at the end. -/
def Attempt.follow (standing : List String) (step : Attempt) : List String :=
  if step.extent = .failed then standing
  else if step.heading = .up then standing ++ [step.identifier]
  else standing.filter fun identifier => identifier ≠ step.identifier

/-- The migrations in force behind a number of steps, in the order in which they were carried out. -/
def standing (start : List String) (steps : List Attempt) : List String :=
  steps.foldl Attempt.follow start

theorem standing_append (start : List String) (first second : List Attempt) :
    standing start (first ++ second) = standing (standing start first) second :=
  List.foldl_append

theorem standing_recorded (entries : List HistoryEntry) (batch : Int) (heading : Heading)
    (identifiers : List String) :
    standing (names entries) (identifiers.map fun identifier => ⟨identifier, heading, .recorded⟩) =
      names (settle entries batch heading identifiers) := by
  induction identifiers generalizing entries with
  | nil =>
      rw [settle_nil]
      rfl
  | cons identifier rest ih =>
      have followed : Attempt.follow (names entries) ⟨identifier, heading, .recorded⟩ =
          names (settle entries batch heading [identifier]) := by
        cases heading with
        | up => simp [Attempt.follow, names, settle]
        | down =>
            simp [Attempt.follow, names, settle, List.filter_map, Function.comp_def]
      rw [← settle_cons, ← ih, ← followed]
      rfl

theorem lastCompleted_append (first second : List Attempt) (identifier : String) :
    lastCompleted (first ++ second) identifier =
      (lastCompleted second identifier).or (lastCompleted first identifier) := by
  simp only [lastCompleted, List.filter_append, List.getLast?_append, Option.map_or]

/-- In steps of one direction, completing a step of the identifier is what counts. -/
theorem lastCompleted_eq {steps : List Attempt} {heading : Heading}
    (same : ∀ step ∈ steps, step.heading = heading) (identifier : String)
    [Decidable (∃ step ∈ steps, step.identifier = identifier ∧ step.extent ≠ .failed)] :
    lastCompleted steps identifier =
      if ∃ step ∈ steps, step.identifier = identifier ∧ step.extent ≠ .failed then some heading
      else none := by
  unfold lastCompleted
  split
  · rename_i completed
    obtain ⟨step, member, mine⟩ := completed
    have filled : (steps.filter fun step =>
        step.identifier = identifier ∧ step.extent ≠ .failed) ≠ [] :=
      List.ne_nil_of_mem (List.mem_filter.mpr ⟨member, by simpa using mine⟩)
    have last := List.getLast_mem filled
    rw [List.getLast?_eq_some_getLast filled, Option.map_some]
    exact congrArg some (same _ (List.mem_filter.mp last).1)
  · rename_i nothing
    have empty : (steps.filter fun step =>
        step.identifier = identifier ∧ step.extent ≠ .failed) = [] := by
      refine List.filter_eq_nil_iff.mpr fun step member mine => nothing ⟨step, member, ?_⟩
      simpa using mine
    rw [empty]
    rfl

theorem InForce.append_iff {entries middle : List HistoryEntry} {first : List Attempt}
    (inStep : InStep entries first middle) (second : List Attempt) (identifier : String) :
    InForce entries (first ++ second) identifier ↔ InForce middle second identifier := by
  unfold InForce
  rw [lastCompleted_append]
  cases lastCompleted second identifier with
  | some heading => rfl
  | none => exact (inStep identifier).symm

theorem InStep.append {entries middle later : List HistoryEntry} {first second : List Attempt}
    (inStep : InStep entries first middle) (next : InStep middle second later) :
    InStep entries (first ++ second) later :=
  fun identifier => (next identifier).trans (InForce.append_iff inStep second identifier).symm

theorem InStep.append_iff {entries middle later : List HistoryEntry} {first second : List Attempt}
    (inStep : InStep entries first middle) :
    InStep entries (first ++ second) later ↔ InStep middle second later :=
  forall_congr' fun identifier => by rw [InForce.append_iff inStep]

theorem mem_names_settle (entries : List HistoryEntry) (batch : Int) (heading : Heading)
    (done : List String) (identifier : String) :
    identifier ∈ names (settle entries batch heading done) ↔
      if identifier ∈ done then heading = .up else identifier ∈ names entries := by
  cases heading with
  | up =>
      by_cases member : identifier ∈ done <;> simp [settle, names, member]
  | down =>
      by_cases member : identifier ∈ done
      · simp only [settle, names, List.mem_map, List.mem_filter, if_pos member, reduceCtorEq,
          iff_false]
        rintro ⟨entry, ⟨-, kept⟩, rfl⟩
        simp [member] at kept
      · simp only [settle, names, List.mem_map, List.mem_filter, if_neg member]
        constructor
        · rintro ⟨entry, ⟨there, -⟩, named⟩
          exact ⟨entry, there, named⟩
        · rintro ⟨entry, there, rfl⟩
          exact ⟨entry, ⟨there, by simpa using member⟩, rfl⟩

namespace Progress

variable {batch : Int} {heading : Heading} {entries later : List HistoryEntry}
  {identifiers : List String} {steps : List Attempt}

theorem settled (progress : Progress batch heading entries identifiers steps later) :
    ∃ done, done <+: identifiers ∧ later = settle entries batch heading done ∧
      ∀ identifier, identifier ∈ done ↔
        ∃ step ∈ steps, step.identifier = identifier ∧ step.extent = .recorded := by
  have recorded (done : List String) (identifier : String) : identifier ∈ done ↔
      ∃ step ∈ done.map (fun identifier => Attempt.mk identifier heading .recorded),
        step.identifier = identifier ∧ step.extent = .recorded := by
    constructor
    · exact fun member => ⟨_, List.mem_map_of_mem member, rfl, rfl⟩
    · rintro ⟨step, member, rfl, -⟩
      obtain ⟨identifier, there, rfl⟩ := List.mem_map.mp member
      exact there
  cases progress with
  | whole => exact ⟨identifiers, List.prefix_rfl, rfl, recorded identifiers⟩
  | part done other rest stops =>
      refine ⟨done, List.prefix_append _ _, rfl, fun identifier => (recorded done identifier).trans ?_⟩
      simp only [List.mem_append, List.mem_singleton, or_and_right, exists_or, exists_eq_left]
      simp [stops]

/-- Where each completed attempt is put on record, the entries stand in the order in which their
migrations were carried out. -/
theorem standing_eq (progress : Progress batch heading entries identifiers steps later)
    (lasts : ∀ step ∈ steps, step.extent ≠ .completed) :
    names later = standing (names entries) steps := by
  cases progress with
  | whole => rw [standing_recorded]
  | @part done identifier rest extent stops =>
      have failed : extent = .failed := by
        have last := lasts ⟨identifier, heading, extent⟩ (by simp)
        cases extent with
        | failed => rfl
        | completed => exact absurd rfl last
        | recorded => exact absurd rfl stops
      subst failed
      rw [standing_append, standing_recorded entries batch]
      rfl

/-- The attempts of one direction keep the history in step just if each that is completed is also
put on record; they are made of what is not yet as they make it. -/
theorem inStep_iff (progress : Progress batch heading entries identifiers steps later)
    (fresh : ∀ identifier ∈ identifiers, (identifier ∈ names entries ↔ heading = .down)) :
    InStep entries steps later ↔ Documented steps := by
  classical
  obtain ⟨done, -, rfl, recorded⟩ := progress.settled
  have held := mem_names_settle entries batch heading done
  constructor
  · intro inStep step member completed
    refine Classical.byContradiction fun missing => ?_
    have unrecorded : step.identifier ∉ done := by
      intro present
      obtain ⟨record, there, named, put⟩ := (recorded _).mp present
      refine missing ⟨record, there, named, ?_, put⟩
      rw [progress.heading_eq record there, progress.heading_eq step member]
    have agrees := inStep step.identifier
    have chosen := fresh step.identifier (progress.identifier_mem step member)
    rw [held, if_neg unrecorded, InForce, lastCompleted_eq progress.heading_eq,
      if_pos ⟨step, member, rfl, completed⟩, Option.elim_some, chosen] at agrees
    cases heading <;> simp at agrees
  · intro documented identifier
    rw [held, InForce, lastCompleted_eq progress.heading_eq]
    by_cases present : identifier ∈ done
    · obtain ⟨step, member, named, put⟩ := (recorded identifier).mp present
      rw [if_pos present, if_pos ⟨step, member, named, by simp [put]⟩, Option.elim_some]
    · have nothing : ¬ ∃ step ∈ steps, step.identifier = identifier ∧ step.extent ≠ .failed := by
        rintro ⟨step, member, rfl, completed⟩
        obtain ⟨record, there, named, -, put⟩ := documented step member completed
        exact present ((recorded _).mpr ⟨record, there, named, put⟩)
      rw [if_neg present, if_neg nothing, Option.elim_none]

end Progress

theorem InStep.refl (entries : List HistoryEntry) : InStep entries [] entries :=
  fun _ => Iff.rfl

theorem Documented.of_recorded {steps : List Attempt}
    (recorded : ∀ step ∈ steps, step.extent = .recorded) : Documented steps :=
  fun step member _ => ⟨step, member, rfl, rfl, recorded step member⟩

/-- What is undone documents nothing of what is carried out behind it. -/
theorem Documented.append_iff {first second : List Attempt}
    (recorded : ∀ step ∈ first, step.extent = .recorded)
    (undone : ∀ step ∈ first, step.heading = .down) (carried : ∀ step ∈ second, step.heading = .up) :
    Documented (first ++ second) ↔ Documented second := by
  constructor
  · intro documented step member completed
    obtain ⟨record, there, named, same, put⟩ :=
      documented step (List.mem_append_right _ member) completed
    rcases List.mem_append.mp there with early | late
    · rw [undone record early, carried step member] at same
      cases same
    · exact ⟨record, late, named, same, put⟩
  · intro documented step member completed
    rcases List.mem_append.mp member with early | late
    · exact ⟨step, member, rfl, rfl, recorded step early⟩
    · obtain ⟨record, there, facts⟩ := documented step late completed
      exact ⟨record, List.mem_append_right _ there, facts⟩

theorem FileTree.of_discover {tree : FileTree} {folder : Path} {present : List String}
    (found : tree.discover folder = .ok present) : present = tree.migrations folder := by
  unfold FileTree.discover at found
  split at found
  · cases found
    rfl
  · cases found

namespace Migrator

variable {σ : Type} [Database σ] {migrator : Migrator σ} {refuses : Prop}
  {Holds : List HistoryEntry → Connections σ → Prop} {entries : List HistoryEntry}

theorem not_mem_of_pending {present : List String} :
    ∀ identifier ∈ pending present (names entries), identifier ∉ names entries := by
  intro identifier member
  simpa using (List.mem_filter.mp member).2

theorem Advances.standing_eq {result : Except MigrationError Nat} {batch : Int} {heading : Heading}
    {identifiers : List String} {steps : List Attempt} {later : List HistoryEntry}
    (advances : Advances refuses result batch heading entries identifiers steps later)
    (accepts : ¬ refuses) : names later = standing (names entries) steps :=
  advances.progress.standing_eq fun step member completed =>
    accepts (advances.lasts step member completed)

theorem inStep_run (table : migrator.history.Tabular refuses Holds)
    (spares : migrator.Spares Holds) {folder : Path} {before after : Workspace σ}
    {result : Except MigrationError Nat} (holds : Holds entries before.connections)
    (ended : Ends (migrator.run folder false) before result after) :
    ∃ later, Holds later after.connections ∧
      (InStep entries (migrator.runSteps folder before) later ↔
        Documented (migrator.runSteps folder before)) ∧
      (∀ step ∈ migrator.runSteps folder before, step.heading = .up) ∧
      (∀ step ∈ migrator.runSteps folder before, step.extent = .completed → refuses) ∧
      (¬ refuses → names later = standing (names entries) (migrator.runSteps folder before)) ∧
      ∃ carried, carried <+: pending (before.files.migrations folder) (names entries) ∧
        later = settle entries (wrapSigned (highest entries + 1)) .up carried := by
  obtain ⟨-, later, behind, ⟨none, rfl, -⟩ | ⟨present, found, advances⟩⟩ :=
    of_run table spares holds ended
  · rw [none]
    refine ⟨later, behind, iff_of_true (.refl later) (.of_recorded ?_), ?_, ?_, fun _ => rfl, [],
      List.nil_prefix, (settle_nil _ _ _).symm⟩ <;> simp
  · obtain rfl := FileTree.of_discover found
    obtain ⟨carried, front, settled, -⟩ := advances.progress.settled
    refine ⟨later, behind, advances.progress.inStep_iff fun identifier member => ?_,
      advances.progress.heading_eq, advances.lasts, advances.standing_eq, carried, front, settled⟩
    simpa using not_mem_of_pending identifier member

theorem inStep_undoing {find : Managing σ (List HistoryEntry)} {chosen later : List HistoryEntry}
    {before : Connections σ} {result : Except MigrationError Nat}
    (sub : ∀ entry ∈ chosen, entry ∈ entries)
    (outcome : (migrator.undoSteps find before = [] ∧ later = entries ∧
        (∃ error, result = .error error) ∧ refuses) ∨
      ∃ found, LastFirst chosen found ∧ Advances refuses result 0 .down entries (names found)
        (migrator.undoSteps find before) later) :
    (InStep entries (migrator.undoSteps find before) later ↔
        Documented (migrator.undoSteps find before)) ∧
      (∀ step ∈ migrator.undoSteps find before, step.heading = .down) ∧
      (∀ step ∈ migrator.undoSteps find before, step.extent = .completed → refuses) ∧
      (¬ refuses → names later = standing (names entries) (migrator.undoSteps find before)) ∧
      (∀ count, result = .ok count →
        ∀ step ∈ migrator.undoSteps find before, step.extent = .recorded) ∧
      ∃ undone, later = settle entries 0 .down undone := by
  rcases outcome with ⟨none, rfl, -⟩ | ⟨found, ⟨perm, -⟩, advances⟩
  · rw [none]
    refine ⟨iff_of_true (.refl later) (.of_recorded ?_), ?_, ?_, fun _ => rfl, ?_, [],
      (settle_nil _ _ _).symm⟩ <;> simp
  · obtain ⟨undone, -, settled, -⟩ := advances.progress.settled
    refine ⟨advances.progress.inStep_iff fun identifier member => ?_,
      advances.progress.heading_eq, advances.lasts, advances.standing_eq, ?_, undone, settled⟩
    · obtain ⟨entry, there, rfl⟩ := List.mem_map.mp member
      have present : entry.migration ∈ names entries :=
        List.mem_map_of_mem (sub entry (perm.mem_iff.mp there))
      exact iff_of_true present rfl
    · rintro count rfl
      rcases advances.ends with ⟨-, recorded⟩ | ⟨⟨error, same⟩, -⟩
      · exact recorded
      · cases same

end Migrator

namespace Turn

/-- The identifiers of the folder that an operation runs. -/
def present (files : FileTree) : Turn → List String
  | run folder | refresh folder => files.migrations folder
  | rollback | reset => []

/-- What an operation may do to the entries: some are undone, and then some of what is pending is
carried out as one batch. -/
def Changes (present : List String) (entries later : List HistoryEntry) : Prop :=
  ∃ undone carried middle, middle = settle entries 0 .down undone ∧
    carried <+: Migrator.pending present (names middle) ∧
    later = settle middle (wrapSigned (highest middle + 1)) .up carried

theorem Changes.of_undone {present undone : List String} {entries later : List HistoryEntry}
    (settled : later = settle entries 0 .down undone) : Changes present entries later :=
  ⟨undone, [], later, settled, List.nil_prefix, (settle_nil _ _ _).symm⟩

variable {σ : Type} [Database σ] {migrator : Migrator σ} {refuses : Prop}
  {Holds : List HistoryEntry → Connections σ → Prop} {entries : List HistoryEntry}

/-- What the history holds behind an operation is in step with the migrations just if the steps
are documented. Where nothing is refused, the entries stand in the order of the steps. -/
theorem inStep_iff (table : migrator.history.Tabular refuses Holds)
    (spares : migrator.Spares Holds) {turn : Turn} {before after : Workspace σ}
    {result : Except MigrationError Nat} (holds : Holds entries before.connections)
    (ended : Ends (turn.perform migrator) before result after) :
    ∃ later, Holds later after.connections ∧
      (InStep entries (turn.steps migrator before) later ↔
        Documented (turn.steps migrator before)) ∧
      (∀ step ∈ turn.steps migrator before, step.extent = .completed → refuses) ∧
      Changes (turn.present before.files) entries later ∧
      (¬ refuses → names later = standing (names entries) (turn.steps migrator before)) := by
  cases turn with
  | run folder =>
      obtain ⟨later, behind, iff, -, lasts, order, carried, front, settled⟩ :=
        Migrator.inStep_run table spares holds ended
      exact ⟨later, behind, iff, lasts,
        ⟨[], carried, entries, (settle_nil _ _ _).symm, front, settled⟩, order⟩
  | rollback =>
      obtain ⟨-, later, behind, outcome⟩ := Migrator.of_rollback table spares holds ended
      obtain ⟨iff, -, lasts, order, -, undone, settled⟩ := Migrator.inStep_undoing
        (fun entry member => (List.mem_filter.mp member).1) outcome
      exact ⟨later, behind, iff, lasts, .of_undone settled, order⟩
  | reset =>
      obtain ⟨-, later, behind, outcome⟩ := Migrator.of_reset table spares holds ended
      obtain ⟨iff, -, lasts, order, -, undone, settled⟩ :=
        Migrator.inStep_undoing (fun entry member => member) outcome
      exact ⟨later, behind, iff, lasts, .of_undone settled, order⟩
  | refresh folder =>
      rcases Migrator.of_refresh ended with
        ⟨error, failed, rfl⟩ | ⟨count, emptied, final, resets, runs, connections, -⟩
      · obtain ⟨-, later, behind, outcome⟩ := Migrator.of_reset table spares holds failed
        obtain ⟨iff, -, lasts, order, -, undone, settled⟩ :=
          Migrator.inStep_undoing (fun entry member => member) outcome
        have same : (refresh folder).steps migrator before =
            migrator.undoSteps migrator.history.entries before.connections := by
          simp only [steps, failed.ending_eq, List.append_nil]
        rw [same]
        exact ⟨later, behind, iff, lasts, .of_undone settled, order⟩
      · obtain ⟨files, middle, between, outcome⟩ := Migrator.of_reset table spares holds resets
        obtain ⟨iff, downwards, -, order, recorded, undone, settled⟩ :=
          Migrator.inStep_undoing (fun entry member => member) outcome
        obtain ⟨later, behind, iffToo, upwards, lasts, orderToo, carried, front, settledToo⟩ :=
          Migrator.inStep_run table spares between runs
        have same : (refresh folder).steps migrator before =
            migrator.undoSteps migrator.history.entries before.connections ++
              migrator.runSteps folder emptied := by
          simp only [steps, resets.ending_eq]
        have inStep := iff.mpr (.of_recorded (recorded count rfl))
        rw [same]
        rw [files] at front
        refine ⟨later, connections ▸ behind, ?_, ?_,
          ⟨undone, carried, middle, settled, front, settledToo⟩, ?_⟩
        · rw [inStep.append_iff, iffToo,
            Documented.append_iff (recorded count rfl) downwards upwards]
        · intro step member completed
          rcases List.mem_append.mp member with early | late
          · rw [recorded count rfl step early] at completed
            cases completed
          · exact lasts step late completed
        · intro accepts
          rw [standing_append, ← order accepts, orderToo accepts]

end Turn

namespace Migrator

variable {σ : Type} [Database σ] {migrator : Migrator σ} {refuses : Prop}
  {Holds : List HistoryEntry → Connections σ → Prop} {entries : List HistoryEntry}

theorem run_attempts (table : migrator.history.Tabular refuses Holds)
    (spares : migrator.Spares Holds) (folder : Path) {before : Workspace σ}
    (holds : Holds entries before.connections) :
    ∀ step ∈ migrator.runSteps folder before, step.identifier ∉ names entries := by
  obtain ⟨result, after, ended⟩ := Ends.exists (migrator.run folder false) before
  obtain ⟨-, later, -, ⟨none, -⟩ | ⟨present, -, advances⟩⟩ := of_run table spares holds ended
  · simp [none]
  · exact fun step member => not_mem_of_pending _ (advances.progress.identifier_mem step member)

theorem rollback_attempts (table : migrator.history.Tabular refuses Holds)
    (spares : migrator.Spares Holds) {before : Workspace σ}
    (holds : Holds entries before.connections) :
    ∀ step ∈ migrator.undoSteps migrator.history.lastEntries before.connections,
      step.identifier ∈ names entries := by
  obtain ⟨result, after, ended⟩ := Ends.exists (migrator.rollback false) before
  obtain ⟨-, later, -, ⟨none, -⟩ | ⟨found, ⟨perm, -⟩, advances⟩⟩ :=
    of_rollback table spares holds ended
  · simp [none]
  · intro step member
    obtain ⟨entry, there, named⟩ :=
      List.mem_map.mp (advances.progress.identifier_mem step member)
    rw [← named]
    exact List.mem_map_of_mem (List.mem_filter.mp (perm.mem_iff.mp there)).1

/-- Wherever an operation or a statement of the history fails, the history is in step with the
migrations just if every completed step is put on record. Then a later run carries out nothing that
is in force, and a later rollback undoes nothing else. -/
theorem history_in_step_iff (table : migrator.history.Tabular refuses Holds)
    (spares : migrator.Spares Holds) (turn : Turn) {before : Workspace σ}
    (holds : Holds entries before.connections) :
    ∃ result after later, Ends (turn.perform migrator) before result after ∧
      Holds later after.connections ∧
      (InStep entries (turn.steps migrator before) later ↔
        Documented (turn.steps migrator before)) ∧
      (Documented (turn.steps migrator before) →
        (∀ files folder, ∀ step ∈ (Turn.run folder).steps migrator { after with files },
          ¬ InForce entries (turn.steps migrator before) step.identifier) ∧
        ∀ step ∈ Turn.rollback.steps migrator after,
          InForce entries (turn.steps migrator before) step.identifier) := by
  obtain ⟨result, after, ended⟩ := Ends.exists (turn.perform migrator) before
  obtain ⟨later, behind, iff, -⟩ := turn.inStep_iff table spares holds ended
  refine ⟨result, after, later, ended, behind, iff, fun documented => ⟨?_, ?_⟩⟩
  · intro files folder step member force
    have again : Holds later { after with files }.connections := behind
    exact run_attempts table spares folder again step member ((iff.mpr documented _).mpr force)
  · intro step member
    exact (iff.mpr documented _).mp (rollback_attempts table spares behind step member)

end Migrator

/-- An empty ledger, which refuses some statements, and a folder with one migration. -/
def oneMigration (refused : List String) : Workspace Ledger where
  connections := Ledger.closed ⟨[], refused⟩
  files := { files := [(["1_a.rs"], "")] }

theorem accepted_run_in_step :
    ∃ result after later, Ends ((Turn.run []).perform Ledger.migrator) (oneMigration []) result after ∧
      Ledger.Holds [] later after.connections ∧
      InStep [] [⟨"1_a", .up, .recorded⟩] later := by
  have steps : (Turn.run []).steps Ledger.migrator (oneMigration []) =
      [⟨"1_a", .up, .recorded⟩] := by decide +kernel
  have empty : Ledger.Holds [] [] (oneMigration []).connections := .inl rfl
  obtain ⟨result, after, later, ended, behind, iff, -⟩ :=
    Migrator.history_in_step_iff (Ledger.tabular []) (Ledger.spares []) (.run []) empty
  rw [steps] at iff
  exact ⟨result, after, later, ended, behind, iff.mpr (.of_recorded (by simp))⟩

def inserting : String :=
  "INSERT INTO \"migrations\" (\"batch\", \"migration\") VALUES (?, ?)"

/-- A migration that is carried out and not put on record is in force without an entry, so the next
run carries it out again. -/
theorem unrecorded_migration_repeats :
    (∃ result after later,
      Ends ((Turn.run []).perform Ledger.migrator) (oneMigration [inserting]) result after ∧
        Ledger.Holds [inserting] later after.connections ∧
        ¬ InStep [] ((Turn.run []).steps Ledger.migrator (oneMigration [inserting])) later) ∧
      (Turn.run []).steps Ledger.migrator (oneMigration [inserting]) =
        [⟨"1_a", .up, .completed⟩] ∧
      (Turn.run []).steps Ledger.migrator (oneMigration []) = [⟨"1_a", .up, .recorded⟩] := by
  have steps : (Turn.run []).steps Ledger.migrator (oneMigration [inserting]) =
      [⟨"1_a", .up, .completed⟩] := by decide +kernel
  refine ⟨?_, steps, by decide +kernel⟩
  obtain ⟨result, after, ended⟩ :=
    Ends.exists ((Turn.run []).perform Ledger.migrator) (oneMigration [inserting])
  have empty : Ledger.Holds [inserting] [] (oneMigration [inserting]).connections := .inl rfl
  obtain ⟨later, behind, iff, -⟩ :=
    Turn.inStep_iff (Ledger.tabular [inserting]) (Ledger.spares [inserting]) empty ended
  rw [steps] at iff
  refine ⟨result, after, later, ended, behind, ?_⟩
  rw [steps, iff]
  simp [Documented]

end SqlToolkit
