import SqlToolkit.Proofs.Histories.Twins
/-!
A rollback directly behind a run: it undoes what the run carried out, in the reverse order, and
leaves the history as the run found it.
-/

namespace SqlToolkit

open History Number

section

variable {entries newest : List HistoryEntry} {batch : Int}

theorem Bounded.fresh {top : Int} (bounded : Bounded top entries) (some : 0 ≤ top)
    (room : top < maxSigned) :
    ∀ entry ∈ entries, entry.batch < wrapSigned (highest entries + 1) := by
  intro entry member
  rw [bounded.wrapSigned_highest some room]
  have below := batch_le_highest entry member
  omega

end

namespace Migrator

variable {σ : Type} [Database σ] {migrator : Migrator σ} {refuses : Prop}
  {Holds : List HistoryEntry → Connections σ → Prop} {entries : List HistoryEntry}

end Migrator

namespace Ledger

theorem Holds.unique {refused : List String} {entries others : List HistoryEntry}
    {state : Connections Ledger} (holds : Holds refused entries state)
    (again : Holds refused others state) : entries = others := by
  have kept {entries : List HistoryEntry} (holds : Holds refused entries state) :
      state.database = ⟨entries, refused⟩ := by
    rcases holds with rfl | rfl <;> rfl
  exact (Ledger.mk.inj ((kept holds).symm.trans (kept again))).1

/-- A history of an early batch, beside a folder to which two files were added since. -/
def early : Workspace Ledger where
  connections := opened ⟨[⟨"1_a", 7⟩], []⟩
  files := folder ["1_a.rs", "2_b.rs", "3_a.rs"]

end Ledger

end SqlToolkit
