import SqlToolkit.Proofs.Histories.InForce
/-!
Operations of migrators one after the other, with other files and other migrations each time, on a
history whose statements are not refused.
-/

namespace SqlToolkit

open History Number

/-- The batches are numbered from zero up to a bound. -/
def Bounded (top : Int) (entries : List HistoryEntry) : Prop :=
  ∀ entry ∈ entries, 0 ≤ entry.batch ∧ entry.batch ≤ top

namespace Bounded

variable {top : Int} {entries : List HistoryEntry}

theorem highest_mem (bounded : Bounded top entries) (some : 0 ≤ top) :
    0 ≤ highest entries ∧ highest entries ≤ top := by
  unfold highest
  cases largest : (entries.map HistoryEntry.batch).max? with
  | none => exact ⟨Int.le_refl 0, some⟩
  | some batch =>
      obtain ⟨entry, member, rfl⟩ := List.mem_map.mp (List.max?_mem largest)
      exact bounded entry member

theorem wrapSigned_highest (bounded : Bounded top entries) (some : 0 ≤ top)
    (room : top < maxSigned) : wrapSigned (highest entries + 1) = highest entries + 1 := by
  obtain ⟨low, high⟩ := bounded.highest_mem some
  have fits : highest entries + 1 ≤ 9223372036854775807 := by
    unfold maxSigned at room
    omega
  unfold wrapSigned
  rw [Int.bmod_def]
  omega

theorem undone (bounded : Bounded top entries) (batch : Int) (identifiers : List String) :
    Bounded top (settle entries batch .down identifiers) :=
  fun entry member => bounded entry (List.mem_filter.mp member).1

/-- What is carried out as the next batch raises the bound by one. -/
theorem carried (bounded : Bounded top entries) (some : 0 ≤ top) (room : top < maxSigned)
    (identifiers : List String) :
    Bounded (top + 1) (settle entries (wrapSigned (highest entries + 1)) .up identifiers) := by
  intro entry member
  rw [bounded.wrapSigned_highest some room] at member
  rcases List.mem_append.mp member with old | new
  · have within := bounded entry old
    omega
  · obtain ⟨identifier, -, rfl⟩ := List.mem_map.mp new
    have within := bounded.highest_mem some
    show 0 ≤ highest entries + 1 ∧ highest entries + 1 ≤ top + 1
    omega

end Bounded

/-- The entries ascend by their batches, and in a batch by their identifiers. -/
def Layered (entries : List HistoryEntry) : Prop :=
  entries.Pairwise fun first second =>
    first.batch < second.batch ∨ first.batch = second.batch ∧ first.migration < second.migration

namespace Layered

variable {entries : List HistoryEntry}

theorem undone (layered : Layered entries) (batch : Int) (identifiers : List String) :
    Layered (settle entries batch .down identifiers) :=
  layered.filter _

theorem carried (layered : Layered entries) {batch : Int}
    (above : ∀ entry ∈ entries, entry.batch < batch) {identifiers : List String}
    (ascending : identifiers.Pairwise (· < ·)) :
    Layered (settle entries batch .up identifiers) := by
  refine List.pairwise_append.mpr ⟨layered, ?_, ?_⟩
  · exact List.pairwise_map.mpr (ascending.imp fun less => .inr ⟨rfl, less⟩)
  · intro old before new member
    obtain ⟨identifier, -, rfl⟩ := List.mem_map.mp member
    exact .inl (above old before)

end Layered

theorem History.batch_le_highest {entries : List HistoryEntry} :
    ∀ entry ∈ entries, entry.batch ≤ highest entries := by
  intro entry member
  have there : entry.batch ∈ entries.map HistoryEntry.batch := List.mem_map_of_mem member
  unfold highest
  cases largest : (entries.map HistoryEntry.batch).max? with
  | none => simp [List.max?_eq_none_iff.mp largest] at there
  | some batch => exact (List.max?_eq_some_iff.mp largest).2 _ there

namespace Turn

variable {present : List String} {entries later : List HistoryEntry}

theorem Changes.nodup (changes : Changes present entries later) (apart : present.Nodup)
    (unique : (names entries).Nodup) : (names later).Nodup := by
  obtain ⟨undone, carried, middle, rfl, front, rfl⟩ := changes
  have between : (names (settle entries 0 .down undone)).Nodup :=
    unique.sublist (List.filter_sublist.map _)
  have named (batch : Int) : names (settle (settle entries 0 .down undone) batch .up carried) =
      names (settle entries 0 .down undone) ++ carried := by
    simp [settle, names, Function.comp_def]
  rw [named]
  refine List.nodup_append.mpr ⟨between, (apart.filter _).sublist front.sublist, ?_⟩
  rintro held there identifier carries rfl
  exact Migrator.not_mem_of_pending held (front.subset carries) there

theorem Changes.bounded {top : Int} (changes : Changes present entries later)
    (bounded : Bounded top entries) (some : 0 ≤ top) (room : top < maxSigned) :
    Bounded (top + 1) later := by
  obtain ⟨undone, carried, middle, rfl, -, rfl⟩ := changes
  exact (bounded.undone 0 undone).carried some room carried

/-- What is carried out goes on top of what is there. -/
theorem Changes.layered {top : Int} (changes : Changes present entries later)
    (layered : Layered entries) (bounded : Bounded top entries) (some : 0 ≤ top)
    (room : top < maxSigned) (ascending : present.Pairwise (· < ·)) : Layered later := by
  obtain ⟨undone, carried, middle, rfl, front, rfl⟩ := changes
  have next := (bounded.undone 0 undone).wrapSigned_highest some room
  refine (layered.undone 0 undone).carried (fun entry member => ?_)
    ((ascending.filter _).sublist front.sublist)
  have below := batch_le_highest entry member
  omega

end Turn

theorem FileTree.migrations_ascending {files : FileTree} {folder : Path}
    (apart : (files.migrations folder).Nodup) : (files.migrations folder).Pairwise (· < ·) := by
  have sorted : (files.migrations folder).Pairwise (· ≤ ·) := ascending_mergeSort id _
  refine List.Pairwise.imp₂ ?_ sorted apart
  exact fun first second le ne => String.not_le.mp fun ge => ne (String.le_antisymm le ge)

theorem Turn.present_ascending {files : FileTree} (turn : Turn)
    (apart : (turn.present files).Nodup) : (turn.present files).Pairwise (· < ·) := by
  cases turn with
  | run folder | refresh folder => exact FileTree.migrations_ascending apart
  | rollback | reset => exact .nil

/-- What operations lead to from a workspace: how many they are, their steps, and the workspace
behind them. Before each operation the files may change, and what the migrations do; two files of a
folder that is run are never the same migration. -/
inductive Reached {σ : Type} [Database σ] (history : History)
    (Holds : List HistoryEntry → Connections σ → Prop) (initial : Workspace σ) :
    Nat → List Attempt → Workspace σ → Prop where
  | start : Reached history Holds initial 0 [] initial
  | turn {turns : Nat} {steps : List Attempt} {workspace after : Workspace σ}
      {result : Except MigrationError Nat}
      (reached : Reached history Holds initial turns steps workspace)
      (migrator : Migrator σ) (kept : migrator.history = history) (spares : migrator.Spares Holds)
      (turn : Turn) (files : FileTree) (apart : (turn.present files).Nodup)
      (ended : Ends (turn.perform migrator) { workspace with files } result after) :
      Reached history Holds initial (turns + 1)
        (steps ++ turn.steps migrator { workspace with files }) after

/-- What a history holds behind a number of operations, whose steps are told. -/
structure Accounted (start : List HistoryEntry) (turns : Nat) (steps : List Attempt)
    (entries : List HistoryEntry) : Prop where
  unique : (names entries).Nodup
  inStep : InStep start steps entries
  order : names entries = standing (names start) steps
  bounded : ∀ top, 0 ≤ top → Bounded top start → top + turns ≤ maxSigned →
    Bounded (top + turns) entries
  layered : ∀ top, 0 ≤ top → Bounded top start → top + turns ≤ maxSigned → Layered start →
    Layered entries

namespace Accounted

variable {start entries later : List HistoryEntry} {turns : Nat} {steps more : List Attempt}

theorem nothing (unique : (names start).Nodup) : Accounted start 0 [] start where
  unique := unique
  inStep := .refl start
  order := rfl
  bounded top _ bounded _ := by simpa using bounded
  layered _ _ _ _ layered := layered

theorem turn (accounted : Accounted start turns steps entries) {present : List String}
    (ascending : present.Pairwise (· < ·)) (changes : Turn.Changes present entries later)
    (inStep : InStep entries more later) (order : names later = standing (names entries) more) :
    Accounted start (turns + 1) (steps ++ more) later where
  unique := changes.nodup (ascending.imp String.ne_of_lt) accounted.unique
  inStep := accounted.inStep.append inStep
  order := by rw [order, accounted.order, standing_append]
  bounded top some bounded room := by
    have before := accounted.bounded top some bounded (by omega)
    have behind := changes.bounded before (by omega) (by omega)
    rwa [Int.add_assoc] at behind
  layered top some bounded room layered := by
    have before := accounted.bounded top some bounded (by omega)
    have below := accounted.layered top some bounded (by omega) layered
    exact changes.layered below before (by omega) (by omega) ascending

end Accounted

/-- Where no statement of the history is refused, each completed step is put on record. -/
theorem Documented.of_unrefused {steps : List Attempt}
    (lasts : ∀ step ∈ steps, step.extent = .completed → False) : Documented steps := by
  intro step member completed
  refine ⟨step, member, rfl, rfl, ?_⟩
  have last := lasts step member
  cases reached : step.extent with
  | failed => exact absurd reached completed
  | completed => exact (last reached).elim
  | recorded => rfl

section

variable {σ : Type} [Database σ] {history : History}
  {Holds : List HistoryEntry → Connections σ → Prop} {start entries : List HistoryEntry}

theorem Reached.accounted (table : history.Tabular False Holds) (unique : (names start).Nodup)
    {initial workspace : Workspace σ} {turns : Nat} {steps : List Attempt}
    (holds : Holds start initial.connections)
    (reached : Reached history Holds initial turns steps workspace) :
    ∃ entries, Holds entries workspace.connections ∧ Accounted start turns steps entries := by
  induction reached with
  | start => exact ⟨start, holds, .nothing unique⟩
  | @turn _ _ workspace _ _ reached migrator kept spares turn files apart ended ih =>
      subst kept
      obtain ⟨entries, held, accounted⟩ := ih
      replace held : Holds entries { workspace with files }.connections := held
      obtain ⟨later, behind, iff, lasts, changes, order⟩ := turn.inStep_iff table spares held ended
      exact ⟨later, behind, accounted.turn (turn.present_ascending apart) changes
        (iff.mpr (.of_unrefused lasts)) (order not_false)⟩

/-- Also where statements of the history are refused, it holds each identifier once, in batches that
are numbered up to a bound. -/
theorem Reached.numbered {refuses : Prop} (table : history.Tabular refuses Holds)
    (unique : (names start).Nodup) {initial workspace : Workspace σ} {turns : Nat}
    {steps : List Attempt} (holds : Holds start initial.connections)
    (reached : Reached history Holds initial turns steps workspace) :
    ∃ entries, Holds entries workspace.connections ∧ (names entries).Nodup ∧
      ∀ top, 0 ≤ top → Bounded top start → top + turns ≤ maxSigned →
        Bounded (top + turns) entries := by
  induction reached with
  | start => exact ⟨start, holds, unique, fun top _ bounded _ => by simpa using bounded⟩
  | @turn turns _ workspace _ _ reached migrator kept spares turn files apart ended ih =>
      subst kept
      obtain ⟨entries, held, distinct, within⟩ := ih
      replace held : Holds entries { workspace with files }.connections := held
      obtain ⟨later, behind, -, -, changes, -⟩ := turn.inStep_iff table spares held ended
      refine ⟨later, behind, changes.nodup apart distinct, fun top some bounded room => ?_⟩
      have raised := changes.bounded (within top some bounded (by omega)) (by omega) (by omega)
      rwa [Int.add_assoc] at raised

namespace Migrator

variable {migrator : Migrator σ}

theorem Advances.whole {refuses : Prop} {result : Except MigrationError Nat} {batch : Int}
    {heading : Heading} {identifiers : List String} {steps : List Attempt}
    {later : List HistoryEntry}
    (advances : Advances refuses result batch heading entries identifiers steps later)
    (recorded : ∀ step ∈ steps, step.extent = .recorded) :
    result = .ok identifiers.length ∧
      steps = identifiers.map (fun identifier => ⟨identifier, heading, .recorded⟩) ∧
      later = settle entries batch heading identifiers := by
  cases advances.progress with
  | whole =>
      rcases advances.ends with ⟨same, -⟩ | ⟨-, stopped⟩
      · exact ⟨same, rfl, rfl⟩
      · exact absurd recorded stopped
  | part done other rest stops =>
      exact absurd (recorded _ (List.mem_append_right _ (List.mem_singleton.mpr rfl))) stops

theorem Advances.of_ok {refuses : Prop} {count : Nat} {batch : Int} {heading : Heading}
    {identifiers : List String} {steps : List Attempt} {later : List HistoryEntry}
    (advances : Advances refuses (.ok count) batch heading entries identifiers steps later) :
    count = identifiers.length ∧
      steps = identifiers.map (fun identifier => ⟨identifier, heading, .recorded⟩) ∧
      later = settle entries batch heading identifiers := by
  have recorded : ∀ step ∈ steps, step.extent = .recorded := by
    rcases advances.ends with ⟨-, recorded⟩ | ⟨⟨error, same⟩, -⟩
    · exact recorded
    · cases same
  obtain ⟨same, all, settled⟩ := advances.whole recorded
  cases same
  exact ⟨rfl, all, settled⟩

/-- Where no statement of the history is refused, an operation fails only with a migration. -/
theorem Advances.succeeds {refuses : Prop} {result : Except MigrationError Nat} {batch : Int}
    {heading : Heading} {identifiers : List String} {steps : List Attempt}
    {later : List HistoryEntry}
    (advances : Advances refuses result batch heading entries identifiers steps later)
    (accepts : ¬ refuses) (succeed : ∀ step ∈ steps, step.extent ≠ .failed) :
    result = .ok identifiers.length := by
  refine (advances.whole fun step member => ?_).1
  cases reached : step.extent with
  | failed => exact absurd reached (succeed step member)
  | completed => exact absurd (advances.lasts step member reached) accepts
  | recorded => rfl

theorem Advances.nothing {refuses : Prop} {result : Except MigrationError Nat} {batch : Int}
    {heading : Heading} {steps : List Attempt} {later : List HistoryEntry}
    (advances : Advances refuses result batch heading entries [] steps later) :
    result = .ok 0 ∧ steps = [] := by
  obtain rfl : steps = [] := by
    refine List.eq_nil_iff_forall_not_mem.mpr fun step member => ?_
    exact List.not_mem_nil (advances.progress.identifier_mem step member)
  rcases advances.ends with ⟨same, -⟩ | ⟨-, stopped⟩
  · exact ⟨same, rfl⟩
  · simp at stopped

end Migrator

end

/-- A table that refuses nothing. -/
theorem Ledger.unrefused : ({} : History).Tabular False (Ledger.Holds []) where
  reads holds ended := by
    obtain ⟨kept, replied⟩ := (Ledger.tabular []).reads holds ended
    cases replied with
    | answer right => exact ⟨kept, .answer right⟩
    | refusal refused => exact absurd rfl refused
  writes holds ended := by
    rcases (Ledger.tabular []).writes holds ended with written | ⟨refused, -⟩
    · exact .inl written
    · exact absurd rfl refused

end SqlToolkit
