import SqlToolkit.Proofs.Histories.Inversion
/-!
A refresh: it undoes everything that is on record and carries out what is in the folder, so that the
history starts again with one batch, whatever it held before. The notes tell the steps.
-/

namespace SqlToolkit

open History Number

def Attempt.note (step : Attempt) : String :=
  step.heading.note step.identifier

namespace Migrator

variable {σ : Type} [Database σ] {migrator : Migrator σ} {refuses : Prop}
  {Holds : List HistoryEntry → Connections σ → Prop} {entries : List HistoryEntry}
  {before after : Workspace σ} {folder : Path} {present : List String} {count : Nat}

section

variable {batch : Int} {heading : Heading}

end

end Migrator

/-- A history of a migration whose file is gone, beside a folder whose files were never run. -/
def Ledger.moved : Workspace Ledger where
  connections := opened ⟨[⟨"2_b", 7⟩], []⟩
  files := folder ["1_a.rs", "3_a.rs"]

end SqlToolkit
