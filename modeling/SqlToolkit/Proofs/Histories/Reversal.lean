import SqlToolkit.Proofs.Histories.Completion
/-!
Undoing everything, by a reset or by rollbacks one after the other: what either leaves behind, and
in which order.
-/

namespace SqlToolkit

open History Number

variable {entries : List HistoryEntry}

theorem History.highest_attained (some : entries ≠ []) :
    ∃ entry ∈ entries, entry.batch = highest entries := by
  unfold highest
  cases largest : (entries.map HistoryEntry.batch).max? with
  | none => exact absurd (List.map_eq_nil_iff.mp (List.max?_eq_none_iff.mp largest)) some
  | some batch => exact List.mem_map.mp (List.max?_mem largest)

theorem History.settle_all (entries : List HistoryEntry) (batch : Int) :
    settle entries batch .down (names entries) = [] := by
  refine List.filter_eq_nil_iff.mpr fun entry member => ?_
  have present : entry.migration ∈ names entries := List.mem_map_of_mem member
  simpa using present

theorem History.settle_names (older newest : List HistoryEntry) (batch : Int)
    (apart : (names (older ++ newest)).Nodup) :
    settle (older ++ newest) batch .down (names newest) = older := by
  rw [names, List.map_append] at apart
  have distinct := (List.nodup_append.mp apart).2.2
  have kept : older.filter (fun entry => !(names newest).contains entry.migration) = older := by
    refine List.filter_eq_self.mpr fun entry member => ?_
    have absent : entry.migration ∉ names newest :=
      fun there => distinct _ (List.mem_map_of_mem member) _ there rfl
    simpa only [Bool.not_eq_true', List.contains_eq_mem, decide_eq_false_iff_not] using absent
  have gone : newest.filter (fun entry => !(names newest).contains entry.migration) = [] :=
    settle_all newest batch
  simp only [settle, List.filter_append, kept, gone, List.append_nil]

namespace Layered

/-- The entries of the batch above all others stand at the end. -/
theorem split (layered : Layered entries) {top : Int}
    (below : ∀ entry ∈ entries, entry.batch ≤ top) :
    entries.filter (fun entry => entry.batch ≠ top) ++
      entries.filter (fun entry => entry.batch = top) = entries := by
  induction entries with
  | nil => rfl
  | cons entry rest ih =>
      have behind := List.pairwise_cons.mp layered
      by_cases last : entry.batch = top
      · have all : ∀ other ∈ rest, other.batch = top := by
          intro other member
          have after := behind.1 other member
          have least := below other (List.mem_cons_of_mem _ member)
          omega
        have nothing : rest.filter (fun other => other.batch ≠ top) = [] :=
          List.filter_eq_nil_iff.mpr fun other member => by simpa using all other member
        have everything : rest.filter (fun other => other.batch = top) = rest :=
          List.filter_eq_self.mpr fun other member => by simpa using all other member
        rw [List.filter_cons_of_neg (by simpa using last), List.filter_cons_of_pos (by simpa),
          nothing, everything, List.nil_append]
      · rw [List.filter_cons_of_pos (by simpa using last), List.filter_cons_of_neg (by simpa),
          List.cons_append, ih behind.2 fun other member => below other (List.mem_cons_of_mem _ member)]

theorem batch_ascending (layered : Layered entries) (top : Int) :
    (names (entries.filter fun entry => entry.batch = top)).Pairwise (· < ·) := by
  refine List.pairwise_map.mpr (List.Pairwise.imp_of_mem ?_ (List.Pairwise.filter _ layered))
  intro first second one other before
  have same : first.batch = second.batch := by
    have left := (List.mem_filter.mp one).2
    have right := (List.mem_filter.mp other).2
    simp only [decide_eq_true_eq] at left right
    rw [left, right]
  rcases before with less | ⟨-, less⟩
  · omega
  · exact less

end Layered

namespace Migrator

theorem descending_eq_reverse_iff {identifiers : List String} (apart : identifiers.Nodup) :
    descending identifiers = identifiers.reverse ↔ identifiers.Pairwise (· < ·) := by
  constructor
  · intro same
    have falls := descending_pairwise identifiers
    rw [same, List.pairwise_reverse] at falls
    refine List.Pairwise.imp₂ (fun first second le ne => ?_) falls apart
    exact String.not_le.mp fun ge => ne (String.le_antisymm le ge)
  · intro ascending
    refine (eq_descending (List.reverse_perm _) (List.pairwise_reverse.mpr ?_)).symm
    exact ascending.imp fun less => String.not_lt.mp (String.lt_asymm less)

end Migrator

/-- Rollbacks one after the other, up to one that undoes nothing: how many migrations they undo in
all, their steps, and the workspace behind them. -/
inductive RollsBack {σ : Type} [Database σ] (migrator : Migrator σ) :
    Workspace σ → Nat → List Attempt → Workspace σ → Prop where
  | done {before after : Workspace σ}
      (ended : Ends (migrator.rollback false) before (.ok 0) after) :
      RollsBack migrator before 0 (Turn.rollback.steps migrator before) after
  | next {before middle after : Workspace σ} {count total : Nat} {steps : List Attempt}
      (ended : Ends (migrator.rollback false) before (.ok count) middle) (some : 0 < count)
      (rest : RollsBack migrator middle total steps after) :
      RollsBack migrator before (count + total) (Turn.rollback.steps migrator before ++ steps) after

namespace RollsBack

variable {σ : Type} [Database σ] {migrator : Migrator σ} {before after other : Workspace σ}
  {total totalToo : Nat} {steps stepsToo : List Attempt}

theorem unique (rolls : RollsBack migrator before total steps after)
    (again : RollsBack migrator before totalToo stepsToo other) :
    total = totalToo ∧ steps = stepsToo ∧ after = other := by
  induction rolls generalizing totalToo stepsToo with
  | done ended =>
      cases again with
      | done endedToo => exact ⟨rfl, rfl, (ended.unique endedToo).2⟩
      | next endedToo some rest =>
          cases (ended.unique endedToo).1
          omega
  | next ended some rest ih =>
      cases again with
      | done endedToo =>
          cases (ended.unique endedToo).1
          omega
      | next endedToo someToo restToo =>
          obtain ⟨same, rfl⟩ := ended.unique endedToo
          cases same
          obtain ⟨rfl, rfl, rfl⟩ := ih restToo
          exact ⟨rfl, rfl, rfl⟩

end RollsBack

/-- The step that undoes a migration and takes its entry off the record. -/
def Attempt.undoing (identifier : String) : Attempt :=
  ⟨identifier, .down, .recorded⟩

namespace Migrator

variable {σ : Type} [Database σ] {migrator : Migrator σ}
  {Holds : List HistoryEntry → Connections σ → Prop}

/-- A reset undoes everything, the last identifiers first. -/
theorem Completes.reset (completes : migrator.Completes Holds .down (names entries))
    (table : migrator.history.Tabular False Holds) (spares : migrator.Spares Holds)
    (apart : (names entries).Nodup) {before : Workspace σ} (holds : Holds entries before.connections) :
    ∃ after, Ends (migrator.reset false) before (.ok entries.length) after ∧
      Holds [] after.connections ∧
      Turn.reset.steps migrator before = (descending (names entries)).map Attempt.undoing := by
  obtain ⟨result, after, ended⟩ := Ends.exists (migrator.reset false) before
  obtain ⟨rfl, behind, steps⟩ := completes.undoes table spares (fun entry member => member) apart
    (table.of_entries holds) ended
  rw [settle_all] at behind
  exact ⟨after, ended, behind, steps⟩

/-- A rollback undoes the last batch in the reverse order. -/
theorem Completes.rollback (completes : migrator.Completes Holds .down (names entries))
    (table : migrator.history.Tabular False Holds) (spares : migrator.Spares Holds)
    (layered : Layered entries) (apart : (names entries).Nodup) {before : Workspace σ}
    (holds : Holds entries before.connections) :
    ∃ older newest after, entries = older ++ newest ∧ (entries ≠ [] → newest ≠ []) ∧
      Ends (migrator.rollback false) before (.ok newest.length) after ∧
      Holds older after.connections ∧
      Turn.rollback.steps migrator before = (names newest).reverse.map Attempt.undoing := by
  obtain ⟨result, after, ended⟩ := Ends.exists (migrator.rollback false) before
  have divided := layered.split batch_le_highest
  have rises := layered.batch_ascending (highest entries)
  have attained : entries ≠ [] →
      entries.filter (fun entry => entry.batch = highest entries) ≠ [] := by
    intro some
    obtain ⟨entry, member, last⟩ := highest_attained some
    exact List.ne_nil_of_mem (List.mem_filter.mpr ⟨member, by simpa using last⟩)
  generalize newest_eq : entries.filter (fun entry => entry.batch = highest entries) = newest
    at divided rises attained
  generalize entries.filter (fun entry => entry.batch ≠ highest entries) = older at divided
  have sub : ∀ entry ∈ newest, entry ∈ entries := by
    intro entry member
    rw [← newest_eq] at member
    exact (List.mem_filter.mp member).1
  have few : names newest ⊆ names entries := List.map_subset _ sub
  have read {reply reached} (answered : Ends migrator.history.lastEntries before.connections reply
      reached) : Holds entries reached ∧ Replies False (LastFirst newest) reply := by
    rw [← newest_eq]
    exact table.of_lastEntries holds answered
  obtain ⟨rfl, behind, steps⟩ := (completes.mono few).undoes table spares sub
    (rises.imp String.ne_of_lt) read ended
  have reversed := (descending_eq_reverse_iff (rises.imp String.ne_of_lt)).mpr rises
  rw [reversed] at steps
  subst divided
  rw [settle_names _ _ _ apart] at behind
  exact ⟨older, newest, after, rfl, attained, ended, behind, steps⟩

/-- Rollbacks undo everything in the reverse of the order of the entries. -/
theorem Completes.rollsBack (completes : migrator.Completes Holds .down (names entries))
    (table : migrator.history.Tabular False Holds) (spares : migrator.Spares Holds)
    (layered : Layered entries) (apart : (names entries).Nodup) {before : Workspace σ}
    (holds : Holds entries before.connections) :
    ∃ after, RollsBack migrator before entries.length
      ((names entries).reverse.map Attempt.undoing) after ∧ Holds [] after.connections := by
  -- The induction is on the number of entries: a rollback takes off the last batch, which is not
  -- empty, and the batches below it are as they were.
  induction length : entries.length using Nat.strongRecOn generalizing entries before with
  | ind total ih =>
      obtain ⟨older, newest, middle, rfl, attained, ended, behind, steps⟩ :=
        completes.rollback table spares layered apart holds
      by_cases empty : newest = []
      · obtain rfl : older = [] := by
          refine Classical.byContradiction fun some => attained ?_ empty
          exact List.append_ne_nil_of_left_ne_nil some newest
        subst empty length
        have done := RollsBack.done ended
        rw [steps] at done
        exact ⟨middle, done, behind⟩
      · have some : 0 < newest.length := List.length_pos_iff.mpr empty
        have fewer : older.length < total := by
          rw [← length, List.length_append]
          omega
        have sub : names older ⊆ names (older ++ newest) := List.map_subset _ (by simp)
        have front : older.Sublist (older ++ newest) := List.sublist_append_left older newest
        obtain ⟨after, rolls, last⟩ := ih older.length fewer (completes.mono sub)
          (layered.sublist front) (apart.sublist (front.map _)) behind rfl
        have all := rolls.next ended some
        rw [steps, ← List.map_append, ← List.reverse_append, names, names, ← List.map_append,
          Nat.add_comm, ← List.length_append, length] at all
        exact ⟨after, all, last⟩

section

variable {history : History} {initial workspace : Workspace σ} {turns : Nat} {steps : List Attempt}

end

end Migrator

namespace Ledger

/-! Two migrations, whose files are added one after the other -/

def creatingOther : Migration Ledger where
  up := sending "CREATE TABLE b (id INTEGER)"
  down := sending "DROP TABLE b"

def pair : Migrator Ledger where
  registry := ⟨[("A", creating), ("B", creatingOther)]⟩

def folder (names : List String) : FileTree where
  files := names.map fun name => ([name], "")

def fresh : Workspace Ledger where
  connections := closed ⟨[], []⟩

variable {identifier : String} {migration : Migration Ledger} {heading : Heading}
  {before after : Connections Ledger}

theorem resolve_pair (found : pair.registry.resolve identifier = .ok migration) :
    migration = creating ∨ migration = creatingOther := by
  unfold MigrationRegistry.resolve at found
  cases looked : pair.registry.migrations.lookup (className identifier) with
  | none =>
      rw [looked] at found
      cases found
  | some other =>
      rw [looked] at found
      cases found
      simp only [pair, List.lookup_cons, List.lookup_nil] at looked
      split at looked
      · cases looked
        exact .inl rfl
      · split at looked <;> cases looked
        exact .inr rfl

theorem of_applying {result : Except Error Unit}
    (found : pair.registry.resolve identifier = .ok migration) (holds : Holds [] entries before)
    (ended : Ends (pair.applying migration heading) before result after) :
    result = .ok () ∧ Holds [] entries after := by
  have plain : pair.applying migration heading =
      Connections.use none (Link.transaction (migration.action heading)) := by
    rcases resolve_pair found with rfl | rfl <;> rfl
  have accepted : Ends (Link.transaction (migration.action heading)) ⟨connection, ⟨entries, []⟩⟩
      (.ok ()) ⟨connection, ⟨entries, []⟩⟩ := by
    rcases resolve_pair found with rfl | rfl <;> cases heading <;> rfl
  rw [plain] at ended
  obtain ⟨final, performed, kept⟩ := of_use holds ended
  obtain ⟨rfl, rfl⟩ := performed.unique accepted
  rw [kept rfl]
  exact ⟨rfl, .inr rfl⟩

theorem spares_pair : pair.Spares (Holds []) :=
  fun _ _ _ _ _ _ _ found holds ended => (of_applying found holds ended).2

theorem completes_classes {identifiers : List String}
    (known : ∀ identifier ∈ identifiers, className identifier ∈ ["A", "B"]) :
    pair.Completes (Holds []) heading identifiers := by
  intro identifier member
  have found : ∃ migration, pair.registry.resolve identifier = .ok migration := by
    unfold MigrationRegistry.resolve
    rcases List.mem_cons.mp (known identifier member) with first | second
    · rw [first]
      exact ⟨creating, rfl⟩
    · rw [List.mem_singleton.mp second]
      exact ⟨creatingOther, rfl⟩
  obtain ⟨migration, found⟩ := found
  exact ⟨migration, found, fun _ _ _ _ holds _ ended => (of_applying found holds ended).1⟩

theorem completes_pair {identifiers : List String} (known : identifiers ⊆ ["1_a", "2_b"]) :
    pair.Completes (Holds []) heading identifiers := by
  have classes : ∀ identifier ∈ ["1_a", "2_b"], className identifier ∈ ["A", "B"] := by decide
  exact completes_classes fun identifier member => classes identifier (known member)

theorem discover_folder {names identifiers : List String}
    (perm : (((folder names).namesIn []).filterMap migrationIdentifier?).Perm identifiers)
    (ascending : identifiers.Pairwise (· ≤ ·)) : (folder names).discover [] = .ok identifiers := by
  have inside : (folder names).isFolder [] = true := rfl
  have sorted : (folder names).migrations [] = identifiers :=
    List.Perm.eq_of_pairwise (fun _ _ _ _ => String.le_antisymm) (ascending_mergeSort id _) ascending
      ((List.mergeSort_perm _ _).trans perm)
  rw [FileTree.discover, if_pos inside, sorted]

end Ledger

end SqlToolkit
