import SqlToolkit.Proofs.Rehearsal.Runs
import SqlToolkit.Proofs.Routines.Writer
/-!
Pretending as a forecast. What a pretended run puts on record is what the run itself sends, just if
no statement is sent twice and nothing that the database tells of a table matters to its changes.
-/

namespace SqlToolkit

open SchemaDialect

variable {σ : Type}

def Statement.informed (statement : Statement) : Bool :=
  SchemaDialect.informed statement.sql

/-- A rehearsal beside the statements that were taken in a run: with foresight they are the same,
and without it the rehearsal fails, or the run has more statements that inspection brings about. -/
structure Forecasts (foresight : Prop) (taken : List Statement) (rehearsal : Rehearsal Unit) :
    Prop where
  same : foresight → rehearsal = ⟨taken, .ok ()⟩
  fewer : rehearsal.result = .ok () →
    rehearsal.statements.countP Statement.informed ≤ taken.countP Statement.informed
  foreseen : rehearsal.result = .ok () →
    rehearsal.statements.countP Statement.informed = taken.countP Statement.informed → foresight

namespace Forecasts

variable {first second : Prop} {taken more : List Statement} {rehearsal later : Rehearsal Unit}

theorem of_same (same : rehearsal = ⟨taken, .ok ()⟩) (foresight : first) :
    Forecasts first taken rehearsal where
  same _ := same
  fewer _ := by simp only [same, Nat.le_refl]
  foreseen _ _ := foresight

theorem andThen (begins : Forecasts first taken rehearsal) (goesOn : Forecasts second more later) :
    Forecasts (first ∧ second) (taken ++ more) (rehearsal.andThen fun _ => later) := by
  obtain ⟨statements, result⟩ := rehearsal
  cases result with
  | error error =>
      refine ⟨fun foresight => ?_, fun succeeds => ?_, fun succeeds => ?_⟩
      · cases begins.same foresight.1
      · cases succeeds
      · cases succeeds
  | ok value =>
      have firstFewer := begins.fewer rfl
      have split : (statements ++ later.statements).countP Statement.informed =
          statements.countP Statement.informed + later.statements.countP Statement.informed :=
        List.countP_append
      refine ⟨fun foresight => ?_, fun succeeds => ?_, fun succeeds equal => ?_⟩
      · have same := begins.same foresight.1
        injection same with same
        rw [Rehearsal.andThen, goesOn.same foresight.2, same]
      · have secondFewer := goesOn.fewer succeeds
        simp only [Rehearsal.andThen, split, List.countP_append] at firstFewer ⊢
        omega
      · have secondFewer := goesOn.fewer succeeds
        simp only [Rehearsal.andThen, split, List.countP_append] at firstFewer equal
        exact ⟨begins.foreseen rfl (by dsimp only; omega), goesOn.foreseen succeeds (by omega)⟩

end Forecasts

namespace Change

/-- What the database tells, at this point, of the table of a blueprint does not matter. -/
def ForeseenAt [Database σ] (dialect : SchemaDialect) (link : Link σ) : Change → Prop
  | build blueprint => ∀ context read,
      Ends (Link.perform (dialect.readContext blueprint.prepared)) link (.ok context) read →
        ∀ command ∈ blueprint.prepared.commands, dialect.Foresees context command
  | _ => True

/-- So it is at each point that the changes reach from here. -/
def Foreseen [Database σ] (dialect : SchemaDialect) (link : Link σ) (changes : List Change) :
    Prop :=
  ∀ earlier change middle, earlier ++ [change] <+: changes →
    Ends (Link.perform (programs dialect earlier)) link (.ok ()) middle →
      change.ForeseenAt dialect middle

/-- No vendor but SQLite is asked about a table. -/
theorem foreseen_elsewhere [Database σ] {dialect : SchemaDialect} (link : Link σ)
    (changes : List Change) (elsewhere : dialect.vendor ≠ .sqlite) :
    Foreseen dialect link changes := by
  intro earlier change middle _ _
  cases change with
  | build blueprint =>
      have blind : dialect.needsContext blueprint.prepared = false := by
        simp [needsContext, elsewhere]
      exact fun _ _ _ _ member => foresees_of_blind blind member
  | _ => trivial

theorem foreseen_nil [Database σ] {dialect : SchemaDialect} {link : Link σ} :
    Foreseen dialect link [] := by
  intro earlier change middle front
  have shorter := front.length_le
  simp at shorter

theorem foreseen_cons [Recording σ] {dialect : SchemaDialect} {change : Change}
    {rest : List Change} {before middle : Link σ}
    (ended : Ends (Link.perform (change.program dialect)) before (.ok ()) middle) :
    Foreseen dialect before (change :: rest) ↔
      change.ForeseenAt dialect before ∧ Foreseen dialect middle rest := by
  constructor
  · intro foreseen
    refine ⟨foreseen [] change before ⟨rest, rfl⟩ rfl, fun earlier other reached front ran => ?_⟩
    exact foreseen (change :: earlier) other reached (List.cons_prefix_cons.mpr ⟨rfl, front⟩)
      (Link.ends_perform_bind ended ran)
  · rintro ⟨here, later⟩ earlier other reached front ran
    cases earlier with
    | nil =>
        obtain ⟨rfl, -⟩ := List.cons_prefix_cons.mp front
        obtain ⟨-, rfl⟩ := ran.of_pure
        exact here
    | cons head earlier =>
        rw [List.cons_append] at front
        obtain ⟨rfl, onward⟩ := List.cons_prefix_cons.mp front
        obtain ⟨_, between, first, ran⟩ := Link.of_perform_bind ran
        obtain ⟨-, rfl⟩ := first.unique ended
        exact later earlier other reached onward ran

variable [Recording σ] {dialect : SchemaDialect} {before after : Link σ}

/-- The statements of a blueprint, written with and without what the database tells. -/
theorem forecasts_statements {blueprint : Blueprint} {context : TableContext} {texts : List String}
    (sqlite : dialect.vendor = .sqlite)
    (written : dialect.statements blueprint context = .ok texts) :
    Forecasts (∀ command ∈ blueprint.commands, dialect.Foresees context command)
      (texts.map (⟨·, []⟩))
      (Program.check (dialect.statements blueprint {}) >>= executeTexts).rehearsed := by
  have without (foresight : ∀ command ∈ blueprint.commands, dialect.Foresees context command) :
      dialect.statements blueprint {} = .ok texts :=
    (statements_of_foresees foresight).symm.trans written
  cases blind : dialect.statements blueprint {} with
  | error fault =>
      have failed : (Program.check (.error fault) >>= executeTexts).rehearsed =
          ⟨[], .error (.invalidArgument fault)⟩ := rfl
      rw [failed]
      refine ⟨fun foresight => ?_, fun succeeds => ?_, fun succeeds => ?_⟩
      · cases blind.symm.trans (without foresight)
      · cases succeeds
      · cases succeeds
  | ok others =>
      have rehearsed : (Program.check (.ok others) >>= executeTexts).rehearsed =
          ⟨others.map (⟨·, []⟩), .ok ()⟩ := rehearsed_executeTexts others
      -- Without the database no statement tells of an inspection, so the counts are equal only if
      -- none does with it.
      have none : others.countP SchemaDialect.informed = 0 := uninformed_statements sqlite blind
      have counts (texts : List String) : (texts.map fun sql => (⟨sql, []⟩ : Statement)).countP
          Statement.informed = texts.countP SchemaDialect.informed := List.countP_map
      rw [rehearsed]
      refine ⟨fun foresight => ?_, fun _ => ?_, fun _ equal => ?_⟩
      · cases blind.symm.trans (without foresight)
        rfl
      · rw [counts, none]
        exact Nat.zero_le _
      · rw [counts, none, counts] at equal
        exact fun command member => foresees_of_uninformed written blind equal.symm member

theorem forecasts_build {blueprint : Blueprint}
    (talking : before.connection.pretending = false)
    (inspecting : dialect.needsContext blueprint.prepared = true)
    (ended : Ends (Link.perform (dialect.build blueprint)) before (.ok ()) after) :
    ∃ taken, Link.Takes taken before after ∧
      Forecasts ((build blueprint).ForeseenAt dialect before) taken
        (dialect.build blueprint).rehearsed := by
  have sqlite : dialect.vendor = .sqlite := by
    simp only [needsContext, Bool.and_eq_true, beq_iff_eq] at inspecting
    exact inspecting.1
  rw [build_inspecting inspecting] at ended ⊢
  obtain ⟨context, read, told, rest⟩ := Link.of_perform_bind ended
  obtain ⟨asked, completes, takes⟩ := Link.completes_of_perform talking told
  obtain rfl := completes_readContext sqlite completes
  obtain ⟨changed, completes, takesToo⟩ :=
    Link.completes_of_perform (takes.pretending.trans talking) rest
  obtain ⟨front, texts, back, checked, executed, rfl⟩ := completes.of_bind
  obtain ⟨written, rfl⟩ := checked.of_check
  obtain rfl := completes_executeTexts executed
  have known : (build blueprint).ForeseenAt dialect before ↔
      ∀ command ∈ blueprint.prepared.commands, dialect.Foresees context command := by
    refine ⟨fun foreseen => foreseen context read told, fun foresight other again retold => ?_⟩
    cases (retold.unique told).1
    exact foresight
  -- The rehearsal asks the same questions, but is told nothing.
  have asks : (dialect.readContext blueprint.prepared >>= fun context =>
      Program.check (dialect.statements blueprint.prepared context) >>= executeTexts).rehearsed =
      (⟨dialect.inspection blueprint.prepared, .ok ()⟩ : Rehearsal Unit).andThen fun _ =>
        (Program.check (dialect.statements blueprint.prepared {}) >>= executeTexts).rehearsed := by
    rw [Program.rehearsed_bind, rehearsed_readContext sqlite]
    rfl
  have questions : Forecasts True (dialect.inspection blueprint.prepared)
      ⟨dialect.inspection blueprint.prepared, .ok ()⟩ := .of_same rfl trivial
  have answers := questions.andThen (forecasts_statements sqlite written)
  rw [true_and, ← known, ← asks] at answers
  exact ⟨_, takes.trans takesToo, answers⟩

theorem forecasts_program {change : Change} (talking : before.connection.pretending = false)
    (ended : Ends (Link.perform (change.program dialect)) before (.ok ()) after) :
    ∃ taken, Link.Takes taken before after ∧
      Forecasts (change.ForeseenAt dialect before) taken (change.program dialect).rehearsed := by
  by_cases inspects : change.Inspects dialect
  · cases change with
    | build blueprint => exact forecasts_build talking inspects ended
    | _ => exact inspects.elim
  · obtain ⟨taken, completes, takes⟩ := Link.completes_of_perform talking ended
    obtain ⟨_, rehearsed⟩ := straight_program inspects taken () completes
    have foresight : change.ForeseenAt dialect before := by
      cases change with
      | build blueprint =>
          have blind : dialect.needsContext blueprint.prepared = false :=
            Bool.eq_false_iff.mpr inspects
          exact fun _ _ _ _ member => foresees_of_blind blind member
      | _ => trivial
    exact ⟨taken, takes, .of_same rehearsed foresight⟩

theorem forecasts_programs {changes : List Change} (talking : before.connection.pretending = false)
    (ended : Ends (Link.perform (programs dialect changes)) before (.ok ()) after) :
    ∃ taken, Link.Takes taken before after ∧
      Forecasts (Foreseen dialect before changes) taken (programs dialect changes).rehearsed := by
  induction changes generalizing before with
  | nil =>
      obtain ⟨-, rfl⟩ := ended.of_pure
      exact ⟨[], .refl _, .of_same rfl foreseen_nil⟩
  | cons change rest ih =>
      obtain ⟨_, middle, ran, later⟩ := Link.of_perform_bind ended
      obtain ⟨taken, takes, forecasts⟩ := forecasts_program talking ran
      obtain ⟨more, takesToo, forecastsToo⟩ := ih (takes.pretending.trans talking) later
      have split : (programs dialect (change :: rest)).rehearsed =
          (change.program dialect).rehearsed.andThen fun _ => (programs dialect rest).rehearsed :=
        Program.rehearsed_bind _ _
      refine ⟨taken ++ more, takes.trans takesToo, ?_⟩
      rw [foreseen_cons ran, split]
      exact forecasts.andThen forecastsToo

/-- Pretending changes that succeed tells exactly what the run itself sends, just if nothing that is
sent there is refused at first, and nothing that the database tells of a table on the way matters. A
connection keeps its dialect, so that all blueprints are carried out in the one that it has now. -/
theorem pretended_as_sent_iff {link after : Link σ} {changes : List Change}
    (talking : link.connection.pretending = false)
    (succeeds : Ends (Link.perform (programs link.connection.schemaDialect changes)) link (.ok ())
      after) :
    ∃ events, after.events = link.events ++ events ∧
      ((∃ final, Ends (Link.pretend
          (Link.perform (programs link.connection.schemaDialect changes))) link
            (.ok ((events.filterMap Event.sent?).map Statement.unsent)) final) ↔
        (∀ event ∈ events, event.sent?.isSome → event.refusal = none) ∧
          Foreseen link.connection.schemaDialect link changes) := by
  obtain ⟨taken, takes, forecasts⟩ := forecasts_programs talking succeeds
  obtain ⟨events, added, rfl⟩ := takes.record
  refine ⟨events, added, ?_⟩
  rw [← Event.taken_eq_sent_iff]
  have fewer : (events.filterMap Event.taken?).countP Statement.informed ≤
      (events.filterMap Event.sent?).countP Statement.informed :=
    (Event.sublist_sent events).countP_le
  constructor
  · rintro ⟨final, pretended⟩
    have told := Link.of_pretend_perform pretended
    cases result : (programs link.connection.schemaDialect changes).rehearsed.result with
    | error error =>
        rw [result] at told
        cases told
    | ok value =>
        rw [result] at told
        have listed : (events.filterMap Event.sent?) =
            (programs link.connection.schemaDialect changes).rehearsed.statements := by
          injection told with same
          exact List.map_injective_iff.mpr (fun _ _ same => congrArg Logged.statement same) same
        -- The rehearsal has no more informed statements than were taken, and as many as were sent.
        have atMost := forecasts.fewer result
        have foreseen := forecasts.foreseen result (by rw [← listed] at atMost ⊢; omega)
        have same := congrArg Rehearsal.statements (forecasts.same foreseen)
        exact ⟨same.symm.trans listed.symm, foreseen⟩
  · rintro ⟨all, foreseen⟩
    obtain ⟨result, final, pretended⟩ := Ends.exists (Link.pretend
      (Link.perform (programs link.connection.schemaDialect changes))) link
    have told := Link.of_pretend_perform pretended
    rw [forecasts.same foreseen, all] at told
    subst told
    exact ⟨final, pretended⟩

/-! A table of users -/

/-- SQLite answers two questions about a table of users; foreign keys are not enforced. -/
def answering : Link Script :=
  { Routine.untouched with database := {
    sessions := 1
    rows := [[⟨["foreign_keys"], [.integer 0]⟩],
      [⟨["name", "type", "notnull", "dflt_value", "pk"],
        [.text "votes", .text "INTEGER", .integer 0, .null, .integer 0]⟩]] } }

def emptied : Change :=
  truncate (({ dialect := sqliteDialect.toDialect : Builder }).table (.named "users"))

def votesToPoints : Blueprint :=
  { table := "users", commands := [.renameColumn "votes" "points"] }

def renamedSent : List Statement :=
  [⟨"DELETE FROM sqlite_sequence WHERE name = ?", [.text "users"]⟩,
    ⟨"DELETE FROM \"users\"", []⟩, ⟨"PRAGMA foreign_keys", []⟩,
    ⟨"PRAGMA table_info(\"users\")", []⟩,
    ⟨"ALTER TABLE \"users\" RENAME COLUMN \"votes\" TO \"points\"", []⟩]

theorem foreseen_renamed {after : Link Script}
    (ended : Ends (Link.perform (programs answering.connection.schemaDialect
      [emptied, build votesToPoints])) answering (.ok ()) after) :
    Foreseen answering.connection.schemaDialect answering [emptied, build votesToPoints] := by
  let dialect := answering.connection.schemaDialect
  obtain ⟨_, middle, first, rest⟩ := Link.of_perform_bind ended
  obtain ⟨_, last, second, -⟩ := Link.of_perform_bind rest
  have only : votesToPoints.prepared.commands = [.renameColumn "votes" "points"] := by
    decide +kernel
  refine (foreseen_cons first).mpr ⟨trivial, (foreseen_cons second).mpr ⟨?_, foreseen_nil⟩⟩
  intro context read told command member
  have computed : (ending (Link.perform (emptied.program dialect >>= fun _ =>
      dialect.readContext votesToPoints.prepared)) answering).1.map TableContext.foreignKeys =
        .ok false := by decide +kernel
  rw [(Link.ends_perform_bind first told).ending_eq] at computed
  rw [only] at member
  obtain rfl := List.mem_singleton.mp member
  exact fun _ => Except.ok.inj computed

theorem pretended_renaming_as_sent :
    ∃ final, Ends (Link.pretend (Link.perform (programs answering.connection.schemaDialect
      [emptied, build votesToPoints]))) answering (.ok (renamedSent.map Statement.unsent))
        final := by
  have talking : answering.connection.pretending = false := rfl
  obtain ⟨result, after, succeeds⟩ := Ends.exists (Link.perform (σ := Script)
    (programs answering.connection.schemaDialect [emptied, build votesToPoints])) answering
  have computed : (ending (Link.perform (programs answering.connection.schemaDialect
      [emptied, build votesToPoints])) answering).1 = .ok () := by decide +kernel
  have made : (ending (Link.perform (programs answering.connection.schemaDialect
      [emptied, build votesToPoints])) answering).2.events.filterMap Event.sent? = renamedSent := by
    decide +kernel
  have calm : ∀ event ∈ (ending (Link.perform (programs answering.connection.schemaDialect
      [emptied, build votesToPoints])) answering).2.events, event.refusal = none := by
    decide +kernel
  rw [succeeds.ending_eq] at computed made calm
  subst computed
  obtain ⟨events, added, asSent⟩ := pretended_as_sent_iff talking succeeds
  have silent : answering.events = [] := rfl
  rw [silent, List.nil_append] at added
  rw [← added, made] at asSent
  exact asSent.mpr ⟨fun event member _ => calm event member, foreseen_renamed succeeds⟩

/-- The run that changes a column succeeds, but to pretend it fails: no columns are told. -/
theorem pretended_change_fails :
    let change := Link.perform (programs answering.connection.schemaDialect [build changedVotes])
    (ending change answering).1 = .ok () ∧
      (ending change answering).2.events.filterMap Event.sent? =
        [⟨"PRAGMA foreign_keys", []⟩, ⟨"PRAGMA table_info(\"users\")", []⟩,
          ⟨"CREATE TEMPORARY TABLE \"__temp__users\" AS SELECT \"votes\" FROM \"users\"", []⟩,
          ⟨"DROP TABLE \"users\"", []⟩, ⟨"CREATE TABLE \"users\" (\"votes\" INTEGER NULL)", []⟩,
          ⟨"INSERT INTO \"users\" (\"votes\") SELECT \"votes\" FROM \"__temp__users\"", []⟩,
          ⟨"DROP TABLE \"__temp__users\"", []⟩] ∧
      (ending (Link.pretend change) answering).1 =
        .error (.invalidArgument (.changeWithoutColumns "users")) := by
  decide +kernel

end Change

end SqlToolkit
