import SqlToolkit.CommandLine.Commands
import SqlToolkit.Proofs.Histories.Steps
import SqlToolkit.Proofs.Rehearsal.Runs
import SqlToolkit.Proofs.Routines.Harmless
/-!
Commands that only print what they would do. Their migrations are pretended, and what they ask of
the history is read; but a run makes the table of the history first if it is not there.
-/

namespace SqlToolkit

variable {σ α β : Type} [Recording σ]

def Workspace.events (workspace : Workspace σ) : List Event :=
  workspace.connections.events

omit [Recording σ] in
theorem Always.forM {ε : Type} {R : σ → σ → Prop} {items : List β} {body : β → EStateM ε σ Unit}
    (refl : ∀ state, R state state)
    (trans : ∀ {before middle after}, R before middle → R middle after → R before after)
    (does : ∀ item, Always R (body item)) : Always R (items.forM body) := by
  induction items with
  | nil => exact Always.pure refl ()
  | cons item rest ih => exact Always.bind (R := R) trans (does item) fun _ => ih

namespace Migrating

theorem harmless_managing {action : Managing σ α}
    (does : Always (Harmlessly Connections.events) action) :
    Always (Harmlessly Workspace.events) (managing action) := by
  intro before result after ended
  obtain ⟨inner, connections, performed, -, rfl⟩ := of_managing ended
  exact does.of performed

theorem harmless_check (checked : Except MigrationError α) :
    Always (Harmlessly Workspace.events) (check (σ := σ) checked) := by
  intro before result after ended
  obtain ⟨-, rfl⟩ := of_check ended
  exact .refl _

theorem harmless_discover (folder : Path) :
    Always (Harmlessly Workspace.events) (discover (σ := σ) folder) :=
  fun before _ _ ended => (harmless_check (before.files.discover folder)).of ended

theorem harmless_note (text : String) :
    Always (Harmlessly Workspace.events) (note (σ := σ) text) := by
  intro before result after ended
  cases result <;> cases ended
  exact .of_eq rfl

theorem harmless_clearNotes : Always (Harmlessly Workspace.events) (clearNotes (σ := σ)) := by
  intro before result after ended
  cases result <;> cases ended
  exact .of_eq rfl

end Migrating

/-! What is asked of the history -/

namespace History

variable (history : History)

theorem harmless_read (query : HistoryQuery) :
    Always (Harmlessly Connections.events) (history.read (σ := σ) query) := by
  refine Connections.harmless_use _ fun before result after ended => ?_
  exact (Link.harmless_fetch _ _).of (Link.of_current ended)

theorem harmless_ran : Always (Harmlessly Connections.events) (history.ran (σ := σ)) := by
  rw [ran_eq]
  exact .bind .trans (history.harmless_read _) fun _ => .pure .refl _

theorem harmless_entries : Always (Harmlessly Connections.events) (history.entries (σ := σ)) := by
  rw [entries_eq]
  exact .bind .trans (history.harmless_read _) fun _ => .pure .refl _

theorem harmless_lastBatch :
    Always (Harmlessly Connections.events) (history.lastBatch (σ := σ)) := by
  rw [lastBatch_eq]
  exact .bind .trans (history.harmless_read _) fun _ => .pure .refl _

theorem harmless_nextBatch :
    Always (Harmlessly Connections.events) (history.nextBatch (σ := σ)) :=
  .bind .trans history.harmless_lastBatch fun _ => .pure .refl _

theorem harmless_lastEntries :
    Always (Harmlessly Connections.events) (history.lastEntries (σ := σ)) := by
  rw [lastEntries_eq]
  exact .bind .trans history.harmless_lastBatch fun _ =>
    .bind .trans (history.harmless_read _) fun _ => .pure .refl _

theorem harmless_exists? : Always (Harmlessly Connections.events) (history.exists? (σ := σ)) := by
  refine Connections.harmless_use _ fun before result after ended => ?_
  have looks : Always (Harmlessly Link.events) (Link.perform (σ := σ)
      (before.connection.schemaDialect.hasTable history.table)) :=
    .bind .trans (Link.harmless_fetch false _) fun _ => .pure .refl _
  exact looks.of (Link.of_current ended)

/-- The table of the history is made by a single statement. -/
theorem build_table (dialect : SchemaDialect) :
    ∃ statement, dialect.build
      (((dialect.blueprint history.table).addCommand .create).addColumns
        [Column.string "migration", { type := .integer, name := "batch" }]) =
      .send (.execute statement) fun _ => .result () := by
  let blueprint := (((dialect.blueprint history.table).addCommand .create).addColumns
    [Column.string "migration", { type := .integer, name := "batch" }])
  have commands : blueprint.prepared.commands = [.create] := rfl
  have blind : dialect.needsContext blueprint.prepared = false := by
    simp [SchemaDialect.needsContext, commands]
  have texts : dialect.statements blueprint.prepared {} =
      .ok [dialect.create blueprint.prepared] := by
    rw [SchemaDialect.statements, commands]
    rfl
  refine ⟨⟨dialect.create blueprint.prepared, []⟩, ?_⟩
  rw [SchemaDialect.build_blind blind, texts]
  rfl

/-- What is done to make the table stays on record, and does no harm only as long as the statement
comes to no session. -/
theorem harmless_create_iff {before after : Connections σ} {opened : Opened}
    {result : Except Error Unit}
    (found : before.find? (before.resolve history.connection) = some opened)
    (ended : Ends history.create before result after) :
    Appends (fun _ => True) before.events after.events ∧
      (Harmlessly Connections.events before after ↔ ¬(before.link opened).Reaches) := by
  obtain ⟨final, performed, place⟩ := Connections.of_use_found found ended
  obtain ⟨statement, built⟩ := history.build_table opened.connection.schemaDialect
  have executes : Ends (Link.run (.execute statement) >>= fun _ => pure ()) (before.link opened)
      result final := by
    have building := Link.of_current performed
    simp only [Connections.link, built] at building
    exact building
  obtain ⟨reply, executed⟩ := of_ignored executes fun _ => And.right ∘ Ends.of_pure
  have same : after.events = final.events := by
    rw [place]
    rfl
  have start : before.events = (before.link opened).events := rfl
  have grows : Appends (fun _ => True) (before.link opened).events final.events :=
    (Link.appends_run executed).mono fun _ _ => trivial
  rw [Harmlessly, same, start]
  exact ⟨grows, Link.harmless_execute_iff executed⟩

end History

/-! What is pretended -/

/-- Each registered migration makes calls on the connection that it is given, and does no more. -/
def MigrationRegistry.MakesCalls (registry : MigrationRegistry σ) : Prop :=
  ∀ entry ∈ registry.migrations, ∀ heading,
    ∃ routine : Routine Unit, entry.2.action heading = routine.perform

omit [Recording σ] in
theorem MigrationRegistry.mem_of_resolve {registry : MigrationRegistry σ} {identifier : String}
    {migration : Migration σ} (found : registry.resolve identifier = .ok migration) :
    (className identifier, migration) ∈ registry.migrations := by
  unfold resolve at found
  split at found
  · rename_i looked
    cases found
    obtain ⟨front, back, same, -⟩ := List.lookup_eq_some_iff.mp looked
    rw [same]
    simp
  · cases found

namespace Migrator

open Migrating

variable {migrator : Migrator σ}

theorem harmless_pretend (calls : migrator.registry.MakesCalls) (heading : Heading)
    (identifier : String) :
    Always (Harmlessly Workspace.events)
      (check (migrator.registry.resolve identifier) >>= fun migration =>
        migrator.pretend identifier migration heading) := by
  intro before result after ended
  rcases of_check_bind ended with ⟨_, -, -, rfl⟩ | ⟨migration, found, pretends⟩
  · exact .refl _
  obtain ⟨routine, same⟩ := calls _ (MigrationRegistry.mem_of_resolve found) heading
  have pretended : Always (Harmlessly Link.events) (Link.pretend (migration.action heading)) := by
    rw [same]
    exact routine.harmless_pretend
  refine (Always.bind .trans (harmless_managing (Connections.harmless_use _ pretended))
    fun log => ?_).of pretends
  induction log with
  | nil => exact .pure .refl _
  | cons logged rest ih =>
      simp only [List.forIn_cons, bind_assoc, pure_bind]
      exact .bind .trans (harmless_note _) fun _ => ih

theorem harmless_run (calls : migrator.registry.MakesCalls) (folder : Path) :
    Always (Harmlessly Workspace.events) (migrator.run folder true) := by
  refine .bind .trans harmless_clearNotes fun _ => .bind .trans (harmless_discover folder)
    fun present => .bind .trans (harmless_managing migrator.history.harmless_ran) fun ran => ?_
  dsimp only
  split
  · exact .bind .trans (harmless_note _) fun _ => .pure .refl _
  · refine .bind .trans (harmless_managing migrator.history.harmless_nextBatch) fun batch =>
      .bind .trans (.forM .refl .trans fun identifier => ?_) fun _ => .pure .refl _
    exact harmless_pretend calls .up identifier

theorem harmless_undoAll (calls : migrator.registry.MakesCalls) (entries : List HistoryEntry) :
    Always (Harmlessly Workspace.events) (migrator.undoAll true entries) := by
  unfold undoAll
  split
  · exact .bind .trans (harmless_note _) fun _ => .pure .refl _
  · refine .bind .trans (.forM .refl .trans fun entry => ?_) fun _ => .pure .refl _
    exact harmless_pretend calls .down entry.migration

theorem harmless_rollback (calls : migrator.registry.MakesCalls) :
    Always (Harmlessly Workspace.events) (migrator.rollback true) :=
  .bind .trans harmless_clearNotes fun _ =>
    .bind .trans (harmless_managing migrator.history.harmless_lastEntries) fun entries =>
      harmless_undoAll calls entries

theorem harmless_reset (calls : migrator.registry.MakesCalls) :
    Always (Harmlessly Workspace.events) (migrator.reset true) :=
  .bind .trans harmless_clearNotes fun _ =>
    .bind .trans (harmless_managing migrator.history.harmless_entries) fun entries =>
      harmless_undoAll calls entries

/-! What is not pretended -/

/-- The table of the history is looked for and is not there, and the statement that makes it comes
to a session. -/
def MakesTable (migrator : Migrator σ) (before : Connections σ) : Prop :=
  ∃ absent opened, Ends migrator.history.exists? before (.ok false) absent ∧
    absent.find? (absent.resolve migrator.history.connection) = some opened ∧
    (absent.link opened).Reaches

theorem not_makesTable {before after : Connections σ} {result : Except Error Bool}
    (ended : Ends migrator.history.exists? before result after) (other : result ≠ .ok false) :
    ¬migrator.MakesTable before := by
  rintro ⟨absent, -, missing, -⟩
  exact other (congrArg Prod.fst (ended.ending_eq.symm.trans missing.ending_eq))

theorem harmless_install_iff {before after : Workspace σ} {result : Except MigrationError Bool}
    (ended : Ends migrator.install before result after) :
    Appends (fun _ => True) before.events after.events ∧
      (Harmlessly Workspace.events before after ↔ ¬migrator.MakesTable before.connections) := by
  have looks {reply : Except Error Bool} {connections : Connections σ}
      (looked : Ends migrator.history.exists? before.connections reply connections) :
      Harmlessly Connections.events before.connections connections :=
    migrator.history.harmless_exists?.of looked
  have grows {connections : Connections σ}
      (harmless : Harmlessly Connections.events before.connections connections) :
      Appends (fun _ => True) before.connections.events connections.events :=
    harmless.mono fun _ _ => trivial
  rcases of_managing_bind ended with ⟨error, _, failed, -, rfl⟩ | ⟨there, absent, looked, rest⟩
  · exact ⟨grows (looks failed), iff_of_true (looks failed) (not_makesTable failed nofun)⟩
  cases there with
  | true =>
      obtain ⟨-, rfl⟩ := rest.of_pure
      exact ⟨grows (looks looked), iff_of_true (looks looked) (not_makesTable looked nofun)⟩
  | false =>
      obtain ⟨reply, creating⟩ := of_ignored rest fun _ => And.right ∘ Ends.of_pure
      obtain ⟨inner, connections, created, -, rfl⟩ := of_managing creating
      obtain ⟨opened, found⟩ := Connections.found_of_use looked
      obtain ⟨more, creates⟩ := migrator.history.harmless_create_iff found created
      have first := looks looked
      have reaches : (absent.link opened).Reaches ↔ migrator.MakesTable before.connections := by
        refine ⟨fun reaches => ⟨absent, opened, looked, found, reaches⟩, ?_⟩
        rintro ⟨other, kept, missing, foundToo, reaches⟩
        cases looked.ending_eq.symm.trans missing.ending_eq
        cases found.symm.trans foundToo
        exact reaches
      have rests : Harmlessly Connections.events before.connections connections ↔
          Harmlessly Connections.events absent connections :=
        ⟨fun whole => (whole.parts first more).2, fun second => first.trans second⟩
      exact ⟨(grows first).trans more, rests.trans (creates.trans (not_congr reaches))⟩

end Migrator

namespace CommandLine

open Migrating

/-- The command only prints what it would do. -/
def Command.pretends : Command → Bool
  | run pretend _ | rollback pretend _ | reset pretend _ => pretend
  | install | refresh _ | status | make .. => false

/-- The command starts with the table of the history. -/
def Command.installs : Command → Bool
  | install | run _ _ | refresh _ => true
  | rollback _ _ | reset _ _ | status | make .. => false

theorem harmless_notes :
    Always (Harmlessly Workspace.events) (do return (← get).notes : Migrating σ (List String)) := by
  intro before result after ended
  cases result <;> cases ended
  exact .refl _

theorem harmless_lines_iff {command : Command} (pretends : command.pretends = true)
    {migrator : Migrator σ} (calls : migrator.registry.MakesCalls) {folder : Path} {now : Moment}
    {before after : Workspace σ} {result : Except MigrationError (List String)}
    (ended : Ends (command.lines migrator folder now) before result after) :
    Harmlessly Workspace.events before after ↔
      ¬(command.installs = true ∧ migrator.MakesTable before.connections) := by
  cases command with
  | run pretend force =>
      obtain rfl : pretend = true := pretends
      have runs := Always.bind (R := Harmlessly Workspace.events) .trans
        (Migrator.harmless_run calls folder) fun _ => harmless_notes
      simp only [Command.installs, true_and]
      rcases ended.of_bind with ⟨error, failed, -⟩ | ⟨_, middle, installed, rest⟩
      · exact (Migrator.harmless_install_iff failed).2
      · obtain ⟨grows, installs⟩ := Migrator.harmless_install_iff installed
        have later : Harmlessly Workspace.events middle after := runs.of rest
        rw [← installs]
        exact ⟨fun whole => (whole.parts grows later).1, fun first => first.trans later⟩
  | rollback pretend force =>
      obtain rfl : pretend = true := pretends
      have undoes := Always.bind (R := Harmlessly Workspace.events) .trans
        (Migrator.harmless_rollback calls) fun _ => harmless_notes
      exact iff_of_true (undoes.of ended) (by simp [Command.installs])
  | reset pretend force =>
      obtain rfl : pretend = true := pretends
      have undoes := Always.bind (R := Harmlessly Workspace.events) .trans
        (Migrator.harmless_reset calls) fun _ => harmless_notes
      exact iff_of_true (undoes.of ended) (by simp [Command.installs])
  | install | refresh _ | status | make _ _ _ => cases pretends

/-- A command that is pretended sends nothing but reads, unless it is a run that is allowed, finds
no table for the history, and makes one. -/
theorem pretended_command_reads_only_iff {options : Options}
    (pretends : options.command.pretends = true) {registry : MigrationRegistry σ}
    (calls : registry.MakesCalls) (folder : Path) (now : Moment) (before : Workspace σ) :
    ∃ result after, Ends (options.lines registry folder now) before result after ∧
      (Harmlessly Workspace.events before after ↔
        ¬(options.isAllowed = true ∧ options.command.installs = true ∧
          (({ registry } : Migrator σ).onConnection options.database).MakesTable
            before.connections)) := by
  obtain ⟨result, after, ended⟩ := Ends.exists (options.lines registry folder now) before
  refine ⟨result, after, ended, ?_⟩
  unfold Options.lines at ended
  split at ended
  · rename_i allowed
    let migrator := ({ registry } : Migrator σ).onConnection options.database
    have same : migrator.registry.MakesCalls := calls
    simpa only [allowed, true_and] using harmless_lines_iff pretends same ended
  · rename_i refused
    obtain ⟨-, rfl⟩ := ended.of_pure
    exact iff_of_true (.refl _) fun ⟨allowed, _⟩ => refused allowed

def midnight : Moment :=
  ⟨⟨2024, 1, 15⟩, ⟨0, 0, 0⟩⟩

def pretendedRun : Options where
  config := "quarry.toml"
  database := none
  path := "migrations"
  environment := "local"
  verbose := false
  command := .run true false

/-- A database that finds these tables of a name, beside a folder with one migration. -/
def finding (tables : List Row) : Workspace Script where
  connections :=
    .make (.single "main" { driver := "sqlite", database := "db" }) { rows := [tables] }
  files := { files := [(["1_a.rs"], "")] }

def createsTable : Routine Unit :=
  .call (.ask (.execute ⟨"CREATE TABLE a (id INTEGER)", []⟩)) fun _ => .done ()

def oneTable : MigrationRegistry Script where
  migrations := [("A", { up := createsTable.perform, down := pure () })]

def prepared : Workspace Script :=
  finding [⟨["name"], [.text "migrations"]⟩]

theorem prepared_run_reads_only :
    ∃ result after, Ends (pretendedRun.lines oneTable [] midnight) prepared result after ∧
      Harmlessly Workspace.events prepared after := by
  have calls : oneTable.MakesCalls := by
    intro entry member heading
    obtain rfl : entry = _ := List.mem_singleton.mp member
    cases heading with
    | up => exact ⟨createsTable, rfl⟩
    | down => exact ⟨.done (), rfl⟩
  have pretends : pretendedRun.command.pretends = true := rfl
  obtain ⟨result, after, ended, iff⟩ :=
    pretended_command_reads_only_iff pretends calls [] midnight prepared
  refine ⟨result, after, ended, iff.mpr fun ⟨_, _, makes⟩ => ?_⟩
  let migrator := ({ registry := oneTable } : Migrator Script).onConnection pretendedRun.database
  obtain ⟨reply, connections, looked⟩ := Ends.exists migrator.history.exists? prepared.connections
  have there : (ending migrator.history.exists? prepared.connections).1 = .ok true := by
    decide +kernel
  rw [looked.ending_eq] at there
  have other : reply ≠ .ok false := by
    rintro rfl
    cases there
  exact Migrator.not_makesTable looked other makes

/-- Where the history has no table, a run that is pretended makes one. -/
theorem pretended_run_makes_table :
    let after := (ending (pretendedRun.lines oneTable [] midnight) (finding [])).2
    pretendedRun.command.pretends = true ∧ after.notes = ["A: CREATE TABLE a (id INTEGER)"] ∧
      after.events.filterMap Event.sent? =
        [⟨"SELECT * FROM sqlite_master WHERE type = 'table' AND name = ?", [.text "migrations"]⟩,
          ⟨"CREATE TABLE \"migrations\" (\"migration\" VARCHAR NOT NULL, \"batch\" INTEGER NOT NULL)",
            []⟩,
          ⟨"SELECT \"migration\" FROM \"migrations\" ORDER BY \"migration\" ASC", []⟩,
          ⟨"SELECT MAX(\"batch\") AS aggregate FROM \"migrations\"", []⟩] ∧
      ¬Harmlessly Workspace.events (finding []) after := by
  refine ⟨rfl, by decide +kernel, by decide +kernel, fun harmless => ?_⟩
  have each := (Harmlessly.iff_of_empty rfl).mp harmless
  revert each
  decide +kernel

end CommandLine

end SqlToolkit
