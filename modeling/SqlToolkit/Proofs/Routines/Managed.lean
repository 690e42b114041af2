import SqlToolkit.Proofs.Routines.Directives
import SqlToolkit.Proofs.Routines.Writer
/-!
The session for writing, seen from the connections of all names: what is asked under one name does to
its session what is done on that connection alone, and what is asked under another does nothing to it.
-/

namespace SqlToolkit

variable {σ : Type} [Issuing σ]

namespace Connections

/-- The connection of the name still has the session for writing, which was not told to close. -/
structure KeepsOpen (name : String) (session : Session) (before after : Connections σ) : Prop where
  write : ∃ opened, after.find? name = some opened ∧ opened.connection.write = some session
  silent : Appends (fun event => event.call ≠ .control session .close)
    (Recording.events before.database) (Recording.events after.database)

variable {before after : Connections σ} {name : String} {opened : Opened} {session : Session}

theorem mem_sessions {connection : Connection} (write : connection.write = some session) :
    session ∈ connection.sessions := by
  simp [Connection.sessions, write]

theorem Minds.keepsOpen {meant : Option String} (minds : Minds meant before after)
    (different : meant ≠ some name)
    (found : before.find? name = some opened) (write : opened.connection.write = some session) :
    KeepsOpen name session before after where
  write := ⟨opened, (minds.others name different).trans found, write⟩
  silent := minds.silent.mono fun _ spared =>
    spared session ⟨name, different, opened, found, mem_sessions write⟩

theorem Performs.keepsOpen_iff {acts : List (Act σ)} (found : before.find? name = some opened)
    (write : opened.connection.write = some session)
    (issued : Issuing.Issued before.database session)
    (nested : ∀ act ∈ acts, 1 ≤ act.before.connection.level)
    (performs : Performs name before acts after) :
    KeepsOpen name session before after ↔ ∀ act ∈ acts, ¬ act.Swaps := by
  cases performs with
  | nothing => exact iff_of_true ⟨⟨opened, found, write⟩, .of_eq rfl⟩ (by simp)
  | ran foundToo ended =>
      cases found.symm.trans foundToo
      refine Iff.trans ?_ (Link.keepsOpen_iff write issued nested ended)
      constructor
      · rintro ⟨⟨kept, there, same⟩, silent⟩
        cases (find?_updated found).symm.trans there
        exact ⟨same, silent⟩
      · rintro ⟨same, silent⟩
        exact ⟨⟨_, find?_updated found, same⟩, silent⟩
  | forgot performs closes =>
      refine iff_of_false ?_ ?_
      · rintro ⟨⟨kept, there, -⟩, -⟩
        rw [find?_forget, if_pos rfl] at there
        cases there
      · exact fun stays => stays _ (closes opened found) (.inl rfl)

end Connections

open Connections in
theorem Directive.keepsOpen_iff {directive : Directive} {before after : Connections σ}
    {name : String} {opened : Opened} {session : Session} {result : Except Error Unit}
    (owned : before.Owned) (lawful : directive.Lawful before)
    (found : before.find? name = some opened) (write : opened.connection.write = some session)
    (nested : directive.target before = some name →
      ∀ act ∈ directive.acts before, 1 ≤ act.before.connection.level)
    (ended : Ends directive.perform before result after) :
    before.KeepsOpen name session after ↔
      (directive.target before = some name → ∀ act ∈ directive.acts before, ¬ act.Swaps) := by
  by_cases meant : directive.target before = some name
  · obtain ⟨opening, opens, performs⟩ := asks meant ended
    rw [imp_iff_right meant]
    cases opens with
    | kept =>
        have issued : Issuing.Issued before.database session :=
          owned.issued ⟨opened, found, mem_sessions write⟩
        exact performs.keepsOpen_iff found write issued (nested meant)
    | opened absent _ => cases absent.symm.trans found
  · exact iff_of_true ((minds owned lawful ended).keepsOpen meant found write)
      fun same => absurd same meant

/-- Inside transactions the session for writing stays where it is, open, just as long as nothing
disconnects or succeeds to reconnect: this holds of what is done on a connection, and of what is asked
of all connections by name. -/
theorem writer_stays_iff :
    (∀ {α : Type} (routine : Routine α) (link : Link σ) (session : Session),
      link.connection.write = some session → Issuing.Issued link.database session →
      (∀ act ∈ routine.acts link, 1 ≤ act.before.connection.level) →
      ∃ result after, Ends routine.perform link result after ∧
        (link.KeepsOpen session after ↔ ∀ act ∈ routine.acts link, ¬ act.Swaps)) ∧
    ∀ (directive : Directive) (state : Connections σ) (name : String) (opened : Opened)
      (session : Session),
      state.Reached → directive.Lawful state → state.find? name = some opened →
      opened.connection.write = some session →
      (directive.target state = some name →
        ∀ act ∈ directive.acts state, 1 ≤ act.before.connection.level) →
      ∃ result after, Ends directive.perform state result after ∧
        (state.KeepsOpen name session after ↔
          (directive.target state = some name → ∀ act ∈ directive.acts state, ¬ act.Swaps)) := by
  constructor
  · intro α routine link session write issued nested
    obtain ⟨result, after, ended⟩ := Ends.exists routine.perform link
    exact ⟨result, after, ended, Link.keepsOpen_iff write issued nested ended⟩
  · intro directive state name opened session reached lawful found write nested
    obtain ⟨result, after, ended⟩ := Ends.exists directive.perform state
    have iff := directive.keepsOpen_iff reached.owned lawful found write nested ended
    exact ⟨result, after, ended, iff⟩

def archived : Connections Script :=
  .make ⟨"main", [("main", { driver := "sqlite" }), ("archive", { driver := "sqlite" })]⟩ {}

def begun : Connections Script :=
  (ending (Directive.on none (.call .begin fun _ => .done ())).perform archived).2

def paired : Connections Script :=
  (ending (Directive.connection (some "archive")).perform begun).2

theorem reached_begun : begun.Reached :=
  .asked (.start _ _) (Directive.lawful_of_plain (by decide)) (Ends.of_ending _ _)

/-- A connection inside a transaction, to a database that loses a statement and then refuses to open
a session. -/
def unsettled : Link Script where
  connection :=
    { name := "main", config := { driver := "sqlite" }, vendor := .sqlite, marker := .question,
      write := some ⟨0, "write", none⟩, read := none, reconnects := true, level := 1,
      logging := false }
  database := { statements := [some "lost connection"], connects := [some "down"], sessions := 1 }

def turmoil : Routine Unit :=
  .call (.ask (.execute ⟨"DELETE FROM users", []⟩)) fun _ =>
    .call (.setWrite ⟨7, "other", none⟩) fun _ =>
      .call .reconnect fun _ => .transaction (.fail (.driver "stop"))

theorem begun_writer_stays :
    (∃ result after, Ends turmoil.perform unsettled result after ∧
      unsettled.KeepsOpen ⟨0, "write", none⟩ after) ∧
    ∃ result after, Ends (Directive.disconnect (some "archive")).perform paired result after ∧
      paired.KeepsOpen "main" ⟨0, "write", none⟩ after := by
  constructor
  · have nested : ∀ act ∈ turmoil.acts unsettled, 1 ≤ act.before.connection.level := by decide
    have stays : ∀ act ∈ turmoil.acts unsettled, ¬ act.Swaps := by decide
    obtain ⟨result, after, ended, iff⟩ := writer_stays_iff.1 turmoil unsettled ⟨0, "write", none⟩
      rfl Nat.zero_lt_one nested
    exact ⟨result, after, ended, iff.mpr stays⟩
  · have reached : paired.Reached :=
      .asked reached_begun (Directive.lawful_of_plain (by decide)) (Ends.of_ending _ _)
    have kept : (paired.find? "main").bind (·.connection.write) = some ⟨0, "write", none⟩ := by decide
    obtain ⟨opened, found, write⟩ := Option.bind_eq_some_iff.mp kept
    have beside : (Directive.disconnect (some "archive")).target paired ≠ some "main" := by decide
    obtain ⟨result, after, ended, iff⟩ := writer_stays_iff.2
      (.disconnect (some "archive")) paired "main" opened ⟨0, "write", none⟩ reached
      (Directive.lawful_of_plain (by decide)) found write (fun same => absurd same beside)
    exact ⟨result, after, ended, iff.mpr fun same => absurd same beside⟩

/-- To reconnect inside a transaction puts a new session in the place of the one that holds it. -/
theorem reconnect_swaps_writer :
    let after := (ending (Directive.reconnect none).perform begun).2
    begun.Reached ∧
      (begun.find? "main").map (fun opened =>
        (opened.connection.level, opened.connection.pretending, opened.connection.write)) =
          some (1, false, some ⟨0, "write", none⟩) ∧
      (after.find? "main").map (fun opened =>
        (opened.connection.level, opened.connection.pretending, opened.connection.write)) =
          some (1, false, some ⟨1, "write", none⟩) :=
  ⟨reached_begun, by decide, by decide⟩

end SqlToolkit
