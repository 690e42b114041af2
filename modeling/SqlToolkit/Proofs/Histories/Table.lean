import SqlToolkit.Proofs.Histories.Steps
/-!
A history that is kept in a table of its own: what the table holds behind the steps of a migrator.
-/

namespace SqlToolkit

open Number

variable {σ : Type}

section

variable {α : Type} (key : α → String) (values : List α)

theorem ascending_mergeSort : (values.mergeSort fun first second => key first ≤ key second).Pairwise
    fun first second => key first ≤ key second := by
  have sorted : (values.mergeSort fun first second => key first ≤ key second).Pairwise
      fun first second => decide (key first ≤ key second) = true :=
    List.pairwise_mergeSort (fun _ _ _ => by simpa using String.le_trans)
      (fun _ _ => by simpa using String.le_total _ _) values
  simpa using sorted

theorem descending_mergeSort : (values.mergeSort fun first second => key second ≤ key first).Pairwise
    fun first second => key second ≤ key first := by
  have sorted : (values.mergeSort fun first second => key second ≤ key first).Pairwise
      fun first second => decide (key second ≤ key first) = true :=
    List.pairwise_mergeSort
      (fun _ _ _ => by simpa using fun first second => String.le_trans second first)
      (fun _ _ => by simpa using String.le_total _ _) values
  simpa using sorted

end

namespace History

def names (entries : List HistoryEntry) : List String :=
  entries.map HistoryEntry.migration

/-- The highest batch number; zero if there is none. -/
def highest (entries : List HistoryEntry) : Int :=
  (entries.map HistoryEntry.batch).max?.getD 0

/-- The entries behind a number of attempts that were all put on record. -/
def settle (entries : List HistoryEntry) (batch : Int) :
    Heading → List String → List HistoryEntry
  | .up, identifiers => entries ++ identifiers.map fun identifier => ⟨identifier, batch⟩
  | .down, identifiers => entries.filter fun entry => !identifiers.contains entry.migration

/-- The entries that are found are the chosen ones, the last migration first. -/
def LastFirst (chosen found : List HistoryEntry) : Prop :=
  found.Perm chosen ∧ found.Pairwise fun first second => second.migration ≤ first.migration

end History

open History

namespace HistoryQuery

def nameRow (entry : HistoryEntry) : Row :=
  ⟨["migration"], [.text entry.migration]⟩

def entryRow (entry : HistoryEntry) : Row :=
  ⟨["migration", "batch"], [.text entry.migration, .integer entry.batch]⟩

/-- The rows with which a table answers: in the order of the names, or in the reverse order. -/
def Answers (entries : List HistoryEntry) (query : HistoryQuery) (rows : List Row) : Prop :=
  match query with
  | names => ∃ sorted : List HistoryEntry, sorted.Perm entries ∧
      sorted.Pairwise (fun first second => first.migration ≤ second.migration) ∧
      rows = sorted.map nameRow
  | all => ∃ sorted : List HistoryEntry, sorted.Perm entries ∧
      sorted.Pairwise (fun first second => second.migration ≤ first.migration) ∧
      rows = sorted.map entryRow
  | batch number => ∃ sorted : List HistoryEntry,
      sorted.Perm (entries.filter fun entry => entry.batch = number) ∧
      sorted.Pairwise (fun first second => second.migration ≤ first.migration) ∧
      rows = sorted.map entryRow
  | highest => rows = [⟨["aggregate"],
      [match (entries.map HistoryEntry.batch).max? with
        | some number => .integer number
        | none => .null]⟩]

theorem ofRow?_entryRow (entry : HistoryEntry) : HistoryEntry.ofRow? (entryRow entry) = some entry :=
  rfl

end HistoryQuery

def HistoryChange.applied (entries : List HistoryEntry) : HistoryChange → List HistoryEntry
  | log migration batch => settle entries batch .up [migration]
  | delete migration => settle entries 0 .down [migration]

/-- A reply that is as told, or a refusal where there may be one. -/
inductive Replies {α : Type} (refuses : Prop) (told : α → Prop) : Except Error α → Prop where
  | answer {value : α} (right : told value) : Replies refuses told (.ok value)
  | refusal {error : Error} (refused : refuses) : Replies refuses told (.error error)

theorem Replies.of_bind {α β : Type} {refuses : Prop} {told : α → Prop} {other : β → Prop}
    {action : Managing σ α} {f : α → β} {before after : Connections σ} {result : Except Error β}
    (Kept : Connections σ → Prop)
    (replies : ∀ {reply reached}, Ends action before reply reached →
      Kept reached ∧ Replies refuses told reply)
    (ended : Ends (action >>= fun value => pure (f value)) before result after)
    (implies : ∀ value, told value → other (f value)) :
    Kept after ∧ Replies refuses other result := by
  rcases ended.of_bind with ⟨error, failed, rfl⟩ | ⟨value, middle, answered, rest⟩
  · obtain ⟨kept, replied⟩ := replies failed
    cases replied with
    | refusal refused => exact ⟨kept, .refusal refused⟩
  · obtain ⟨rfl, rfl⟩ := rest.of_pure
    obtain ⟨kept, replied⟩ := replies answered
    cases replied with
    | answer right => exact ⟨kept, .answer (implies value right)⟩

/-- The statements of a history act as on a table of entries, which is told by `Holds`. Where
`refuses` is true they may be refused, and then do nothing. -/
structure History.Tabular [Database σ] (history : History) (refuses : Prop)
    (Holds : List HistoryEntry → Connections σ → Prop) : Prop where
  reads : ∀ {entries query before result after}, Holds entries before →
    Ends (history.read query) before result after →
      Holds entries after ∧ Replies refuses (query.Answers entries) result
  writes : ∀ {entries change before result after}, Holds entries before →
    Ends (history.write change) before result after →
      (∃ receipt, result = .ok receipt ∧ Holds (change.applied entries) after) ∨
        refuses ∧ (∃ error, result = .error error) ∧ Holds entries after

/-- No migration touches the table of the history, however it ends. -/
def Migrator.Spares [Database σ] (migrator : Migrator σ)
    (Holds : List HistoryEntry → Connections σ → Prop) : Prop :=
  ∀ identifier migration heading entries before result after,
    migrator.registry.resolve identifier = .ok migration → Holds entries before →
      Ends (migrator.applying migration heading) before result after → Holds entries after

namespace History.Tabular

variable [Database σ] {history : History} {refuses : Prop}
  {Holds : List HistoryEntry → Connections σ → Prop} {entries : List HistoryEntry}
  {before after : Connections σ}

theorem of_ran {result : Except Error (List String)} (table : history.Tabular refuses Holds)
    (holds : Holds entries before) (ended : Ends history.ran before result after) :
    Holds entries after ∧ Replies refuses (fun ran => ran.Perm (names entries)) result := by
  rw [ran_eq] at ended
  refine Replies.of_bind (Holds entries) (table.reads holds) ended ?_
  rintro _ ⟨sorted, perm, -, rfl⟩
  have decoded : ((sorted.map HistoryQuery.nameRow).filterMap Row.first?).filterMap Value.text? =
      names sorted := by
    simp [List.filterMap_map, HistoryQuery.nameRow, Row.first?, Value.text?, names,
      Function.comp_def]
  rw [decoded]
  exact perm.map _

theorem decoded_entryRows (sorted : List HistoryEntry) :
    (sorted.map HistoryQuery.entryRow).filterMap HistoryEntry.ofRow? = sorted := by
  simp [List.filterMap_map, Function.comp_def, HistoryQuery.ofRow?_entryRow]

theorem of_entries {result : Except Error (List HistoryEntry)}
    (table : history.Tabular refuses Holds) (holds : Holds entries before)
    (ended : Ends history.entries before result after) :
    Holds entries after ∧ Replies refuses (LastFirst entries) result := by
  rw [entries_eq] at ended
  refine Replies.of_bind (Holds entries) (table.reads holds) ended ?_
  rintro _ ⟨sorted, perm, falls, rfl⟩
  rw [decoded_entryRows]
  exact ⟨perm, falls⟩

theorem of_lastBatch {result : Except Error Int} (table : history.Tabular refuses Holds)
    (holds : Holds entries before) (ended : Ends history.lastBatch before result after) :
    Holds entries after ∧ Replies refuses (fun batch => batch = highest entries) result := by
  rw [lastBatch_eq] at ended
  refine Replies.of_bind (Holds entries) (table.reads holds) ended ?_
  rintro _ rfl
  unfold highest
  cases (entries.map HistoryEntry.batch).max? <;> rfl

theorem of_nextBatch {result : Except Error Int} (table : history.Tabular refuses Holds)
    (holds : Holds entries before) (ended : Ends history.nextBatch before result after) :
    Holds entries after ∧
      Replies refuses (fun batch => batch = wrapSigned (highest entries + 1)) result := by
  refine Replies.of_bind (Holds entries) (table.of_lastBatch holds) ended ?_
  rintro _ rfl
  rfl

theorem of_lastEntries {result : Except Error (List HistoryEntry)}
    (table : history.Tabular refuses Holds) (holds : Holds entries before)
    (ended : Ends history.lastEntries before result after) :
    Holds entries after ∧ Replies refuses
      (LastFirst (entries.filter fun entry => entry.batch = highest entries)) result := by
  rw [lastEntries_eq] at ended
  rcases ended.of_bind with ⟨error, failed, rfl⟩ | ⟨batch, middle, found, rest⟩
  · obtain ⟨kept, replied⟩ := table.of_lastBatch holds failed
    cases replied with
    | refusal refused => exact ⟨kept, .refusal refused⟩
  · obtain ⟨between, replied⟩ := table.of_lastBatch holds found
    cases replied with
    | answer right =>
        subst right
        refine Replies.of_bind (Holds entries) (table.reads between) rest ?_
        rintro _ ⟨sorted, perm, falls, rfl⟩
        rw [decoded_entryRows]
        exact ⟨perm, falls⟩

theorem of_recording {migrator : Migrator σ} {batch : Int} {heading : Heading} {identifier : String}
    {result : Except Error Receipt} (table : migrator.history.Tabular refuses Holds)
    (holds : Holds entries before)
    (ended : Ends (migrator.recording batch identifier heading) before result after) :
    (∃ receipt, result = .ok receipt ∧
        Holds (settle entries batch heading [identifier]) after) ∨
      refuses ∧ (∃ error, result = .error error) ∧ Holds entries after := by
  cases heading with
  | up => exact table.writes holds ended
  | down => exact table.writes holds ended

end History.Tabular

end SqlToolkit
