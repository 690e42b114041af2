import SqlToolkit.Migration.Migrator
import SqlToolkit.Proofs.Histories.Statements
/-!
The steps of a migrator: which migrations it attempts, in which direction, and how far each attempt
comes. An attempt carries a migration out or undoes it, and then puts that on record.
-/

namespace SqlToolkit

variable {σ α β : Type}

namespace Migrating

theorem of_managing {action : Managing σ α} {before after : Workspace σ}
    {result : Except MigrationError α} (ended : Ends (managing action) before result after) :
    ∃ inner connections, Ends action before.connections inner connections ∧
      result = inner.mapError MigrationError.database ∧ after = { before with connections } := by
  unfold Ends managing at ended
  cases performed : action before.connections with
  | ok value connections =>
      simp only [performed] at ended
      cases result <;> cases ended
      exact ⟨.ok value, connections, performed, rfl, rfl⟩
  | error error connections =>
      simp only [performed] at ended
      cases result <;> cases ended
      exact ⟨.error error, connections, performed, rfl, rfl⟩

theorem of_managing_bind {action : Managing σ α} {next : α → Migrating σ β}
    {before after : Workspace σ} {result : Except MigrationError β}
    (ended : Ends (managing action >>= next) before result after) :
    (∃ error connections, Ends action before.connections (.error error) connections ∧
        result = .error (.database error) ∧ after = { before with connections }) ∨
      ∃ value connections, Ends action before.connections (.ok value) connections ∧
        Ends (next value) { before with connections } result after := by
  rcases ended.of_bind with ⟨error, failed, rfl⟩ | ⟨value, middle, done, rest⟩
  · obtain ⟨inner, connections, performed, same, rfl⟩ := of_managing failed
    cases inner with
    | ok value => cases same
    | error cause =>
        cases same
        exact .inl ⟨cause, connections, performed, rfl, rfl⟩
  · obtain ⟨inner, connections, performed, same, rfl⟩ := of_managing done
    cases inner with
    | ok result =>
        cases same
        exact .inr ⟨value, connections, performed, rest⟩
    | error cause => cases same

theorem of_check {checked : Except MigrationError α} {before after : Workspace σ}
    {result : Except MigrationError α} (ended : Ends (check checked) before result after) :
    result = checked ∧ after = before := by
  cases checked with
  | ok value => exact ended.of_pure
  | error error => exact ended.of_throw

theorem of_check_bind {checked : Except MigrationError α} {next : α → Migrating σ β}
    {before after : Workspace σ} {result : Except MigrationError β}
    (ended : Ends (check checked >>= next) before result after) :
    (∃ error, checked = .error error ∧ result = .error error ∧ after = before) ∨
      ∃ value, checked = .ok value ∧ Ends (next value) before result after := by
  rcases ended.of_bind with ⟨error, failed, rfl⟩ | ⟨value, middle, passed, rest⟩
  · obtain ⟨same, rfl⟩ := of_check failed
    exact .inl ⟨error, same.symm, rfl, rfl⟩
  · obtain ⟨same, rfl⟩ := of_check passed
    exact .inr ⟨value, same.symm, rest⟩

theorem of_clearNotes_bind {next : Unit → Migrating σ α} {before after : Workspace σ}
    {result : Except MigrationError α}
    (ended : Ends (clearNotes >>= next) before result after) :
    Ends (next ()) { before with notes := [] } result after :=
  ended

theorem of_discover_bind {folder : Path} {next : List String → Migrating σ α}
    {before after : Workspace σ} {result : Except MigrationError α}
    (ended : Ends (discover folder >>= next) before result after) :
    Ends (check (before.files.discover folder) >>= next) before result after :=
  ended

theorem of_noted {text : String} {before after : Workspace σ} {result : Except MigrationError Nat}
    (ended : Ends (note text >>= fun _ => pure 0) before result after) :
    result = .ok 0 ∧ after.files = before.files ∧ after.connections = before.connections := by
  unfold Ends at ended
  cases result <;> cases ended
  exact ⟨rfl, rfl, rfl⟩

end Migrating

/-- How far an attempt came: the migration failed or was not found, it was completed without being
put on record, or both. -/
inductive Extent where
  | failed
  | completed
  | recorded
  deriving DecidableEq, Repr

/-- An attempt to carry a migration out or to undo it. -/
structure Attempt where
  identifier : String
  heading : Heading
  extent : Extent
  deriving DecidableEq, Repr

/-- The note on a migration that was carried out or undone. -/
def Heading.note (identifier : String) : Heading → String
  | .up => "Migrated: " ++ identifier
  | .down => "Rolled back: " ++ identifier

namespace Migrator

variable [Database σ] (migrator : Migrator σ)

def applying (migration : Migration σ) (heading : Heading) : Managing σ Unit :=
  Connections.use (migration.connection.or migrator.connection)
    (if migration.transactional then Link.transaction (migration.action heading)
      else migration.action heading)

def recording (batch : Int) (identifier : String) : Heading → Managing σ Receipt
  | .up => migrator.history.write (.log identifier batch)
  | .down => migrator.history.write (.delete identifier)

def attempt (batch : Int) (heading : Heading) (identifier : String) : Migrating σ Unit :=
  match heading with
  | .up => migrator.carryOut batch false identifier
  | .down => migrator.undo false identifier

/-- How far an attempt comes, and the connections behind it. -/
def extent (batch : Int) (heading : Heading) (identifier : String) (before : Connections σ) :
    Extent × Connections σ :=
  match migrator.registry.resolve identifier with
  | .error _ => (.failed, before)
  | .ok migration =>
      match ending (migrator.applying migration heading) before with
      | (.error _, after) => (.failed, after)
      | (.ok (), applied) =>
          match ending (migrator.recording batch identifier heading) applied with
          | (.error _, after) => (.completed, after)
          | (.ok _, after) => (.recorded, after)

/-- The steps of attempts one after the other, up to the first that is not recorded, and the
connections behind them. -/
def passage (batch : Int) (heading : Heading) :
    List String → Connections σ → List Attempt × Connections σ
  | [], before => ([], before)
  | identifier :: rest, before =>
      match migrator.extent batch heading identifier before with
      | (.recorded, after) =>
          let (steps, final) := passage batch heading rest after
          (⟨identifier, heading, .recorded⟩ :: steps, final)
      | (extent, after) => ([⟨identifier, heading, extent⟩], after)

theorem managing_write (history : History) (change : HistoryChange)
    (next : Migrating σ Unit) :
    (Migrating.managing (history.write change >>= fun _ => pure ()) >>= fun (_ : Unit) => next) =
      Migrating.managing (history.write change) >>= fun _ => next := by
  funext workspace
  simp only [Migrating.managing, bind, EStateM.bind]
  cases history.write change workspace.connections <;> rfl

theorem attempt_eq (batch : Int) (heading : Heading) (identifier : String) :
    migrator.attempt batch heading identifier =
      (Migrating.check (migrator.registry.resolve identifier) >>= fun migration =>
        Migrating.managing (migrator.applying migration heading) >>= fun _ =>
          Migrating.managing (migrator.recording batch identifier heading) >>= fun _ =>
            Migrating.note (heading.note identifier)) := by
  cases heading with
  | up =>
      simp only [recording, ← managing_write, ← History.log_eq]
      rfl
  | down =>
      simp only [recording, ← managing_write, ← History.delete_eq]
      rfl

variable {migrator} {batch : Int} {heading : Heading}

theorem of_attempt {identifier : String} {before after : Workspace σ}
    {result : Except MigrationError Unit}
    (ended : Ends (migrator.attempt batch heading identifier) before result after) :
    after.files = before.files ∧
      after.connections = (migrator.extent batch heading identifier before.connections).2 ∧
      (result = .ok () ↔
        (migrator.extent batch heading identifier before.connections).1 = .recorded) := by
  rw [attempt_eq] at ended
  unfold extent
  rcases Migrating.of_check_bind ended with ⟨error, missing, rfl, rfl⟩ | ⟨migration, found, applies⟩
  · simp [missing]
  rw [found]
  rcases Migrating.of_managing_bind applies with
    ⟨error, connections, failed, rfl, rfl⟩ | ⟨_, applied, completed, records⟩
  · simp [failed.ending_eq]
  rcases Migrating.of_managing_bind records with
    ⟨error, connections, failed, rfl, rfl⟩ | ⟨_, final, recorded, noted⟩
  · simp [completed.ending_eq, failed.ending_eq]
  · have plain : result = .ok () ∧ after.files = before.files ∧ after.connections = final := by
      unfold Ends at noted
      cases result <;> cases noted
      exact ⟨rfl, rfl, rfl⟩
    simp [completed.ending_eq, recorded.ending_eq, plain]

theorem passage_recorded {identifier : String} {rest : List String}
    {before middle : Connections σ}
    (recorded : migrator.extent batch heading identifier before = (.recorded, middle)) :
    migrator.passage batch heading (identifier :: rest) before =
      (⟨identifier, heading, .recorded⟩ :: (migrator.passage batch heading rest middle).1,
        (migrator.passage batch heading rest middle).2) := by
  rw [passage, recorded]

theorem passage_stopped {identifier : String} {rest : List String} {before : Connections σ}
    (stops : (migrator.extent batch heading identifier before).1 ≠ .recorded) :
    migrator.passage batch heading (identifier :: rest) before =
      ([⟨identifier, heading, (migrator.extent batch heading identifier before).1⟩],
        (migrator.extent batch heading identifier before).2) := by
  rw [passage]
  split
  · rename_i recorded
    rw [recorded] at stops
    exact absurd rfl stops
  · rename_i reached
    rw [reached]

theorem of_attempts {identifiers : List String} {before after : Workspace σ}
    {result : Except MigrationError Unit}
    (ended : Ends (identifiers.forM (migrator.attempt batch heading)) before result after) :
    after.files = before.files ∧
      after.connections = (migrator.passage batch heading identifiers before.connections).2 ∧
      (result = .ok () ↔ ∀ step ∈ (migrator.passage batch heading identifiers before.connections).1,
        step.extent = .recorded) := by
  induction identifiers generalizing before with
  | nil =>
      obtain ⟨rfl, rfl⟩ := ended.of_pure
      simp [passage]
  | cons identifier rest ih =>
      rcases ended.of_bind with ⟨error, failed, rfl⟩ | ⟨_, middle, done, later⟩
      · obtain ⟨files, connections, recorded⟩ := of_attempt failed
        have stops : (migrator.extent batch heading identifier before.connections).1 ≠ .recorded :=
          fun all => nomatch recorded.mpr all
        rw [passage_stopped stops]
        simpa [files, connections] using stops
      · obtain ⟨files, connections, recorded⟩ := of_attempt done
        have whole : migrator.extent batch heading identifier before.connections =
            (.recorded, middle.connections) :=
          Prod.ext (recorded.mp rfl) connections.symm
        obtain ⟨filesToo, final, finished⟩ := ih later
        rw [passage_recorded whole]
        exact ⟨filesToo.trans files, final, by simpa using finished⟩

/-! Operations -/

variable (migrator)

/-- The identifiers of a folder that are not among those that ran. -/
def pending (present ran : List String) : List String :=
  present.filter fun identifier => !ran.contains identifier

/-- The steps by which pending migrations are carried out as one batch. -/
def pendingSteps (identifiers : List String) (before : Connections σ) : List Attempt :=
  if identifiers = [] then []
  else
    match ending migrator.history.nextBatch before with
    | (.error _, _) => []
    | (.ok batch, numbered) => (migrator.passage batch .up identifiers numbered).1

def runSteps (folder : Path) (before : Workspace σ) : List Attempt :=
  match before.files.discover folder with
  | .error _ => []
  | .ok present =>
      match ending migrator.history.ran before.connections with
      | (.error _, _) => []
      | (.ok ran, read) => migrator.pendingSteps (pending present ran) read

/-- The steps by which the entries that are found are undone. -/
def undoSteps (find : Managing σ (List HistoryEntry)) (before : Connections σ) : List Attempt :=
  match ending find before with
  | (.error _, _) => []
  | (.ok entries, found) =>
      (migrator.passage 0 .down (entries.map HistoryEntry.migration) found).1

end Migrator

/-- An operation of a migrator that is not only pretended. -/
inductive Turn where
  | run (folder : Path)
  | rollback
  | reset
  | refresh (folder : Path)
  deriving DecidableEq, Repr

namespace Turn

variable [Database σ] (migrator : Migrator σ)

def perform : Turn → Migrating σ Nat
  | run folder => migrator.run folder false
  | rollback => migrator.rollback false
  | reset => migrator.reset false
  | refresh folder => migrator.refresh folder false

/-- The steps of an operation in their order. -/
def steps (before : Workspace σ) : Turn → List Attempt
  | run folder => migrator.runSteps folder before
  | rollback => migrator.undoSteps migrator.history.lastEntries before.connections
  | reset => migrator.undoSteps migrator.history.entries before.connections
  | refresh folder =>
      migrator.undoSteps migrator.history.entries before.connections ++
        match ending (migrator.reset false) before with
        | (.error _, _) => []
        | (.ok _, emptied) => migrator.runSteps folder emptied

end Turn

end SqlToolkit
