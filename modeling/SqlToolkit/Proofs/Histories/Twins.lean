import Mathlib.Data.List.Nodup
import SqlToolkit.Proofs.Histories.Reversal
/-!
Files of one folder that are the same migration. Files of one identifier are listed and put on record
once each, and files of one class name are carried out once each; so a run carries out no migration
twice just if no two files have the same class name.
-/

namespace SqlToolkit

open History Number

namespace FileTree

variable {files : FileTree} {folder : Path}

/-- The identifiers of the migrations in a folder, one for each file. -/
def identifiers (files : FileTree) (folder : Path) : List String :=
  (files.namesIn folder).filterMap migrationIdentifier?

theorem migrations_perm (files : FileTree) (folder : Path) :
    (files.migrations folder).Perm (files.identifiers folder) :=
  List.mergeSort_perm _ _

theorem migrations_ascending_iff :
    (files.migrations folder).Pairwise (· < ·) ↔ (files.identifiers folder).Nodup := by
  rw [← (migrations_perm files folder).nodup_iff]
  exact ⟨fun ascending => ascending.imp String.ne_of_lt, migrations_ascending⟩

end FileTree

/-- The step that carries a migration out and puts it on record. -/
def Attempt.carrying (identifier : String) : Attempt :=
  ⟨identifier, .up, .recorded⟩

/-- How often steps carry out the migration that is registered under a class name. -/
def timesCarriedOut (steps : List Attempt) (name : String) : Nat :=
  steps.countP fun step => step.heading = .up ∧ className step.identifier = name

theorem timesCarriedOut_carrying (identifiers : List String) (name : String) :
    timesCarriedOut (identifiers.map Attempt.carrying) name =
      (identifiers.map className).count name := by
  rw [timesCarriedOut, List.countP_map, List.count, List.countP_map]
  refine List.countP_congr fun identifier _ => ?_
  simp only [Function.comp_apply, Attempt.carrying, true_and, decide_eq_true_eq, beq_iff_eq]

theorem carried_out_once_iff (identifiers : List String) :
    (∀ name, timesCarriedOut (identifiers.map Attempt.carrying) name ≤ 1) ↔
      (identifiers.map className).Nodup := by
  simp only [timesCarriedOut_carrying, List.nodup_iff_count_le_one]

namespace Migrator

variable {σ : Type} [Database σ] {migrator : Migrator σ} {refuses : Prop}
  {Holds : List HistoryEntry → Connections σ → Prop}

/-- A run that succeeds on an empty history carries out what is in the folder, and records it as the
first batch, once for each file. -/
theorem run_on_empty (table : migrator.history.Tabular refuses Holds)
    (spares : migrator.Spares Holds) {folder : Path} {present : List String}
    {before after : Workspace σ} {count : Nat}
    (found : before.files.discover folder = .ok present) (empty : Holds [] before.connections)
    (ran : Ends (migrator.run folder false) before (.ok count) after) :
    count = present.length ∧
      Holds (present.map fun identifier => ⟨identifier, 1⟩) after.connections ∧
      migrator.runSteps folder before = present.map Attempt.carrying := by
  obtain ⟨-, later, behind, ⟨-, -, ⟨error, same⟩, -⟩ | ⟨other, same, advances⟩⟩ :=
    of_run table spares empty ran
  · cases same
  rw [found] at same
  cases same
  have all : pending present (names []) = present := by simp [pending, names]
  rw [all] at advances
  obtain ⟨rfl, steps, rfl⟩ := advances.of_ok
  exact ⟨rfl, behind, steps⟩

/-- A folder is listed in strictly ascending order just if no two files have the same identifier.
That is also when a run on an empty history records each identifier once; it carries out each
registered migration at most once just if no two files have the same class name. -/
theorem run_once_iff (table : migrator.history.Tabular refuses Holds)
    (spares : migrator.Spares Holds) {files : FileTree} {folder : Path} {present : List String}
    (found : files.discover folder = .ok present) :
    (present.Pairwise (· < ·) ↔ (files.identifiers folder).Nodup) ∧
      ∀ (before after : Workspace σ) (count : Nat), before.files = files →
        Holds [] before.connections → Ends (migrator.run folder false) before (.ok count) after →
        ∃ later, Holds later after.connections ∧ count = present.length ∧
          (∀ entry ∈ later, entry.migration ∈ present ∧ entry.batch = 1) ∧
          ((∀ identifier ∈ present, (names later).count identifier = 1) ↔
            (files.identifiers folder).Nodup) ∧
          ((∀ name, timesCarriedOut ((Turn.run folder).steps migrator before) name ≤ 1) ↔
            ((files.identifiers folder).map className).Nodup) := by
  obtain rfl := FileTree.of_discover found
  have perm := FileTree.migrations_perm files folder
  refine ⟨FileTree.migrations_ascending_iff, ?_⟩
  rintro before after count rfl empty ran
  obtain ⟨rfl, behind, steps⟩ := run_on_empty table spares found empty ran
  refine ⟨_, behind, rfl, ?_, ?_, ?_⟩
  · intro entry member
    obtain ⟨identifier, there, rfl⟩ := List.mem_map.mp member
    exact ⟨there, rfl⟩
  · have recorded : names ((before.files.migrations folder).map fun identifier =>
        ⟨identifier, 1⟩) = before.files.migrations folder := by
      simp [names, Function.comp_def]
    rw [recorded, ← perm.nodup_iff, List.nodup_iff_count_eq_one]
  · rw [Turn.steps, steps, carried_out_once_iff, (perm.map className).nodup_iff]

end Migrator

/-- An empty history beside a folder of files. -/
def Ledger.beside (names : List String) : Workspace Ledger :=
  { fresh with files := folder names }

theorem Ledger.empty_beside (names : List String) : Holds [] [] (beside names).connections :=
  .inl rfl

/-- Files of two migrations. -/
theorem distinct_files_carried_out_once :
    ∃ after, Ends (Ledger.pair.run [] false) (Ledger.beside ["1_a.rs", "2_b.rs"]) (.ok 2) after ∧
      ∀ name, timesCarriedOut ((Turn.run []).steps Ledger.pair
        (Ledger.beside ["1_a.rs", "2_b.rs"])) name ≤ 1 := by
  have found : (Ledger.folder ["1_a.rs", "2_b.rs"]).discover [] = .ok ["1_a", "2_b"] :=
    Ledger.discover_folder (by decide +kernel) (by decide)
  have completes : Ledger.pair.Completes (Ledger.Holds []) .up
      (Migrator.pending ["1_a", "2_b"] (names [])) :=
    Ledger.completes_pair (by decide)
  obtain ⟨after, ran, -⟩ := completes.run Ledger.unrefused Ledger.spares_pair found (by decide)
    (Ledger.empty_beside ["1_a.rs", "2_b.rs"])
  obtain ⟨-, once⟩ := Migrator.run_once_iff Ledger.unrefused Ledger.spares_pair found
  obtain ⟨later, -, -, -, -, carried⟩ := once _ after 2 rfl (Ledger.empty_beside _) ran
  exact ⟨after, ran, carried.mpr (by decide +kernel)⟩

/-- Two files of one identifier: it is listed, carried out and put on record twice. -/
theorem twin_files_carried_out_twice :
    (Ledger.folder ["1_a.rs", "1_a.txt"]).discover [] = .ok ["1_a", "1_a"] ∧
      ¬ ["1_a", "1_a"].Pairwise (· < ·) ∧
      ∃ after, Ends (Ledger.pair.run [] false) (Ledger.beside ["1_a.rs", "1_a.txt"]) (.ok 2) after ∧
        Ledger.Holds [] [⟨"1_a", 1⟩, ⟨"1_a", 1⟩] after.connections ∧
        timesCarriedOut ((Turn.run []).steps Ledger.pair (Ledger.beside ["1_a.rs", "1_a.txt"]))
          "A" = 2 := by
  have found : (Ledger.folder ["1_a.rs", "1_a.txt"]).discover [] = .ok ["1_a", "1_a"] :=
    Ledger.discover_folder (by decide +kernel) (by decide)
  have steps : Ledger.pair.runSteps [] (Ledger.beside ["1_a.rs", "1_a.txt"]) =
      ["1_a", "1_a"].map Attempt.carrying := by
    rw [Migrator.runSteps, show (Ledger.beside _).files.discover [] = _ from found]
    decide +kernel
  have ran : ∃ after, Ends (Ledger.pair.run [] false) (Ledger.beside ["1_a.rs", "1_a.txt"])
      (.ok 2) after := by
    obtain ⟨result, after, ended⟩ :=
      Ends.exists (Ledger.pair.run [] false) (Ledger.beside ["1_a.rs", "1_a.txt"])
    obtain ⟨-, later, -, ⟨none, -⟩ | ⟨present, same, advances⟩⟩ :=
      Migrator.of_run Ledger.unrefused Ledger.spares_pair (Ledger.empty_beside _) ended
    · cases steps.symm.trans none
    · rw [steps] at advances
      obtain ⟨rfl, all, -⟩ := advances.whole (by simp [Attempt.carrying])
      have count := congrArg List.length all
      rw [List.length_map, List.length_map] at count
      rw [← count] at ended
      exact ⟨after, ended⟩
  obtain ⟨after, ran⟩ := ran
  obtain ⟨-, behind, -⟩ := Migrator.run_on_empty Ledger.unrefused Ledger.spares_pair found
    (Ledger.empty_beside ["1_a.rs", "1_a.txt"]) ran
  refine ⟨found, by decide, after, ran, behind, ?_⟩
  rw [Turn.steps, steps]
  decide

end SqlToolkit
