import SqlToolkit.Proofs.Enforcement.Brackets
import SqlToolkit.Proofs.Rehearsal.Forecast
/-!
Carrying out a blueprint on a connection whose database may refuse any of its statements. The first
refusal ends it, wherever it happens.
-/

namespace SqlToolkit

variable {σ α : Type} [Recording σ]

namespace Link

variable {before after : Link σ}

/-- A request that fails was not taken, at the first attempt or at the second. -/
theorem takes_refused {request : Request} {error : Error}
    (talking : before.connection.pretending = false)
    (ended : Ends (run request) before (.error error) after) : Takes [] before after := by
  have nothing {start final : Link σ} {inner : Except String request.Answer}
      (tried : Ends (tryRequest request) start inner final)
      (fails : Except.error error = inner.mapError (Error.query request.statement)) :
      Takes [] start final := by
    rcases takes_tryRequest tried with ⟨answer, rfl, -⟩ | ⟨_, -, takes⟩
    · cases fails
    · exact takes
  rcases of_run ended with ⟨pretending, -⟩ | ⟨-, sent, persisted, noted⟩
  · cases talking.symm.trans pretending
  obtain rfl : after = sent := noted
  rcases of_persist persisted with ⟨inner, tried, same, -⟩ | ⟨reason, middle, tried, -, next⟩
  · exact nothing tried same
  · have first : Takes [] before middle := by
      rcases takes_tryRequest tried with ⟨_, ⟨⟩, -⟩ | ⟨_, -, takes⟩
      exact takes
    rcases next with ⟨_, opened, -⟩ | ⟨renewed, inner, opened, again, same⟩
    · exact first.trans (takes_reconnect opened)
    · exact (first.trans (takes_reconnect opened)).trans (nothing again same)

/-- Of some texts the ones in front are taken, and all of them if nothing is refused. -/
theorem takes_executeTexts {texts : List String} {result : Except Error Unit}
    (talking : before.connection.pretending = false)
    (ended : Ends (perform (SchemaDialect.executeTexts texts)) before result after) :
    ∃ taken rest, texts = taken ++ rest ∧ Takes (taken.map (⟨·, []⟩)) before after ∧
      (result = .ok () → rest = []) := by
  induction texts generalizing before with
  | nil =>
      obtain ⟨-, rfl⟩ := ended.of_pure
      exact ⟨[], [], rfl, .refl _, fun _ => rfl⟩
  | cons text texts ih =>
      have step : Ends (run (.execute ⟨text, []⟩) >>= fun _ =>
          perform (SchemaDialect.executeTexts texts)) before result after := ended
      rcases step.of_bind with ⟨error, refused, rfl⟩ | ⟨_, middle, accepted, later⟩
      · exact ⟨[], text :: texts, rfl, takes_refused talking refused, nofun⟩
      · have first := takes_run talking accepted
        obtain ⟨taken, rest, rfl, takes, all⟩ := ih (first.pretending.trans talking) later
        exact ⟨text :: taken, rest, rfl, first.trans takes, all⟩

end Link

/-- Whether foreign keys are enforced behind the calls of a connection. -/
def enforcedBehind (before : Bool) (events : List Event) : Bool :=
  enforcedAfter before ((events.filterMap Event.taken?).map Statement.sql)

namespace SchemaDialect

variable {dialect : SchemaDialect} {blueprint : Blueprint} {before after : Link σ}

/-- Questions about a table switch nothing. -/
theorem silent_inspection (dialect : SchemaDialect) (blueprint : Blueprint) :
    Silent ((dialect.inspection blueprint).map Statement.sql) := by
  have switch : RowStorage.switch? "PRAGMA foreign_keys" = none := by simp [RowStorage.switch?]
  have columns : RowStorage.switch? (dialect.tableInfo blueprint.table) = none := by
    have parts : dialect.tableInfo blueprint.table =
        "PRAGMA table_info(" ++ (dialect.table blueprint.table ++ ")") := String.append_assoc
    rw [parts]
    exact switch?_of_begins _ (by decide)
  simp [Silent, inspection, switch, columns]

/-- An inspection that fails has asked its questions up to the one that was refused. -/
theorem takes_readContext (sqlite : dialect.vendor = .sqlite)
    (talking : before.connection.pretending = false) {error : Error}
    (ended : Ends (Link.perform (dialect.readContext blueprint)) before (.error error) after) :
    ∃ asked, asked <+: dialect.inspection blueprint ∧ Link.Takes asked before after := by
  simp only [readContext, foreignKeysQuery?, columnsQuery?, sqlite] at ended
  have asks : Ends (Link.run (.fetch false ⟨"PRAGMA foreign_keys", []⟩) >>= fun switch =>
      Link.run (.fetch false ⟨dialect.tableInfo blueprint.table, []⟩) >>= fun columns =>
        pure { foreignKeys := ((leadingInteger? switch).getD 0) != 0
               columns := columns.filterMap ColumnInfo.ofRow? : TableContext })
      before (.error error) after := ended
  rcases asks.of_bind with ⟨_, refused, -⟩ | ⟨switch, middle, told, rest⟩
  · exact ⟨[], List.nil_prefix, Link.takes_refused talking refused⟩
  have first := Link.takes_run talking told
  rcases rest.of_bind with ⟨_, refused, -⟩ | ⟨columns, last, -, done⟩
  · exact ⟨_, ⟨_, rfl⟩, first.trans (Link.takes_refused (first.pretending.trans talking) refused)⟩
  · cases done.of_pure.1

/-- The statements that were taken behind the inspection of the table stop within a command that has
switched the enforcement of foreign keys off. -/
def Interrupted (dialect : SchemaDialect) (blueprint : Blueprint) (before : Link σ)
    (events : List Event) : Prop :=
  ∃ context read taken,
    Ends (Link.perform (dialect.readContext blueprint)) before (.ok context) read ∧
      events.filterMap Event.taken? = dialect.inspection blueprint ++ taken.map (⟨·, []⟩) ∧
      dialect.StopsWithin blueprint context taken

theorem unswitched_of_blind (blind : dialect.needsContext blueprint = false)
    (sqlite : dialect.vendor = .sqlite) {context : TableContext} {command : Command}
    (member : command ∈ blueprint.commands) : command.switches context = false := by
  simp only [needsContext, sqlite, BEq.rfl, Bool.true_and, List.any_eq_false] at blind
  have free := blind command member
  cases command with
  | change | dropColumns | renameColumn => simp at free
  | _ => rfl

theorem not_interrupted_of_blind (blind : dialect.needsContext blueprint = false)
    (sqlite : dialect.vendor = .sqlite) (events : List Event) :
    ¬dialect.Interrupted blueprint before events := by
  rintro ⟨_, _, _, -, -, earlier, command, later, -, -, -, order, switches, -⟩
  have member : command ∈ blueprint.commands := by simp [order]
  rw [unswitched_of_blind blind sqlite member] at switches
  cases switches

/-- There is one context that is told, and one list of statements that were taken. -/
theorem interrupted_iff {context : TableContext} {read : Link σ} {events : List Event}
    {taken : List String}
    (known : Ends (Link.perform (dialect.readContext blueprint)) before (.ok context) read)
    (sent : events.filterMap Event.taken? =
      dialect.inspection blueprint ++ taken.map (⟨·, []⟩)) :
    dialect.Interrupted blueprint before events ↔ dialect.StopsWithin blueprint context taken := by
  constructor
  · rintro ⟨other, again, more, retold, resent, stops⟩
    cases (retold.unique known).1
    have same := List.append_cancel_left (sent.symm.trans resent)
    have injective : Function.Injective fun sql => (⟨sql, []⟩ : Statement) :=
      fun _ _ equal => congrArg Statement.sql equal
    rwa [List.map_injective_iff.mpr injective same]
  · exact fun stops => ⟨context, read, taken, known, sent, stops⟩

theorem enforcedBehind_inspection {enforced : Bool} {events : List Event} {taken : List String}
    (sent : events.filterMap Event.taken? =
      dialect.inspection blueprint ++ taken.map (⟨·, []⟩)) :
    enforcedBehind enforced events = enforcedAfter enforced taken := by
  rw [enforcedBehind, sent, List.map_append, enforcedAfter_append,
    enforcedAfter_of_silent (silent_inspection dialect blueprint), List.map_map]
  exact congrArg _ (List.map_id taken)

/-- Nothing switches while a blueprint is carried out that needs no inspection. -/
theorem silent_of_blind (sqlite : dialect.vendor = .sqlite) {texts : List String}
    (written : dialect.statements blueprint {} = .ok texts) : Silent texts := by
  intro text member
  have uninformed := List.countP_eq_zero.mp (uninformed_statements sqlite written) text member
  exact switch?_of_uninformed (by simpa using uninformed)

/-- Of the statements of a blueprint the ones in front are taken, if they can be written. -/
theorem takes_statements {context : TableContext} {result : Except Error Unit}
    (talking : before.connection.pretending = false)
    (ended : Ends (Link.perform (Program.check (dialect.statements blueprint context) >>=
      executeTexts)) before result after) :
    ∃ taken, Link.Takes (taken.map (⟨·, []⟩)) before after ∧
      (taken = [] ∧ result ≠ .ok () ∨ ∃ rest,
        dialect.statements blueprint context = .ok (taken ++ rest) ∧
          (result = .ok () → rest = [])) := by
  cases written : dialect.statements blueprint context with
  | error fault =>
      rw [written] at ended
      obtain ⟨rfl, rfl⟩ := Ends.of_throw ended
      exact ⟨[], .refl _, .inl ⟨rfl, nofun⟩⟩
  | ok texts =>
      rw [written] at ended
      obtain ⟨taken, rest, rfl, takes, all⟩ := Link.takes_executeTexts talking ended
      exact ⟨taken, takes, .inr ⟨rest, rfl, all⟩⟩

/-- Behind a blueprint foreign keys are enforced as they were before, just if it was not interrupted
within a command that had switched their enforcement off. -/
theorem enforcement_restored_iff {enforced : Bool} {result : Except Error Unit}
    (sqlite : dialect.vendor = .sqlite) (talking : before.connection.pretending = false)
    (told : ∀ context read, Ends (Link.perform (dialect.readContext blueprint.prepared)) before
      (.ok context) read → context.foreignKeys = enforced)
    (ended : Ends (Link.perform (dialect.build blueprint)) before result after) :
    ∃ events, after.events = before.events ++ events ∧
      (result = .ok () → enforcedBehind enforced events = enforced) ∧
      (enforcedBehind enforced events = enforced ↔
        ¬dialect.Interrupted blueprint.prepared before events) := by
  cases inspecting : dialect.needsContext blueprint.prepared with
  | false =>
      rw [build_blind inspecting] at ended
      obtain ⟨taken, takes, outcome⟩ := takes_statements talking ended
      obtain ⟨events, added, sent⟩ := takes.record
      have silent : Silent taken := by
        rcases outcome with ⟨rfl, -⟩ | ⟨rest, written, -⟩
        · exact nofun
        · exact fun text member => silent_of_blind sqlite written text
            (List.mem_append_left rest member)
      have restored : enforcedBehind enforced events = enforced := by
        rw [enforcedBehind, sent, List.map_map]
        exact (congrArg _ (List.map_id taken)).trans (enforcedAfter_of_silent silent)
      exact ⟨events, added, fun _ => restored,
        iff_of_true restored (not_interrupted_of_blind inspecting sqlite events)⟩
  | true =>
      rw [build_inspecting inspecting, Link.perform_bind] at ended
      rcases ended.of_bind with ⟨error, failed, rfl⟩ | ⟨context, read, known, rest⟩
      · obtain ⟨asked, part, takes⟩ := takes_readContext sqlite talking failed
        obtain ⟨events, added, rfl⟩ := takes.record
        have silent : Silent ((events.filterMap Event.taken?).map Statement.sql) :=
          fun text member => silent_inspection dialect blueprint.prepared text
            ((part.map Statement.sql).subset member)
        refine ⟨events, added, nofun, ?_⟩
        -- No context was told, so that nothing was sent behind the questions.
        rw [enforcedBehind, enforcedAfter_of_silent silent]
        simp only [true_iff]
        rintro ⟨context, read, taken, succeeded, -⟩
        cases (succeeded.unique failed).1
      · obtain rfl := told context read known
        obtain ⟨asked, completes, inspected⟩ := Link.completes_of_perform talking known
        obtain rfl := completes_readContext sqlite completes
        obtain ⟨taken, takes, outcome⟩ :=
          takes_statements (inspected.pretending.trans talking) rest
        obtain ⟨events, added, sent⟩ := (inspected.trans takes).record
        refine ⟨events, added, ?_⟩
        rw [enforcedBehind_inspection sent, interrupted_iff known sent]
        rcases outcome with ⟨rfl, fails⟩ | ⟨rest, written, all⟩
        · exact ⟨fun succeeds => absurd succeeds fails,
            iff_of_true rfl not_stopsWithin_nil⟩
        · refine ⟨fun succeeds => ?_, enforcedAfter_taken_iff sqlite written⟩
          rw [all succeeds, List.append_nil] at written
          exact enforcedAfter_statements sqlite written

end SchemaDialect

/-! A table of users -/

/-- SQLite enforces foreign keys, knows nothing of a table of users, and refuses some statements. -/
def enforcing (refusals : List (Option String)) : Link Script :=
  { Routine.untouched with database := {
    sessions := 1
    rows := [[⟨["foreign_keys"], [.integer 1]⟩], []]
    statements := refusals } }

/-- A renaming that is carried out leaves foreign keys enforced. -/
theorem renamed_votes_enforced :
    let link := enforcing []
    let dialect := link.connection.schemaDialect
    dialect.vendor = .sqlite ∧ link.connection.pretending = false ∧
      (∀ context read, Ends (Link.perform (dialect.readContext Change.votesToPoints.prepared)) link
        (.ok context) read → context.foreignKeys = true) ∧
      ∃ after events, Ends (Link.perform (dialect.build Change.votesToPoints)) link (.ok ()) after ∧
        after.events = link.events ++ events ∧ enforcedBehind true events = true := by
  intro link dialect
  have sqlite : dialect.vendor = .sqlite := rfl
  have talking : link.connection.pretending = false := rfl
  have told : ∀ context read, Ends (Link.perform (dialect.readContext
      Change.votesToPoints.prepared)) link (.ok context) read → context.foreignKeys = true := by
    intro context read known
    have computed : (ending (Link.perform (dialect.readContext Change.votesToPoints.prepared))
        link).1.map TableContext.foreignKeys = .ok true := by decide +kernel
    rw [known.ending_eq] at computed
    exact Except.ok.inj computed
  obtain ⟨result, after, ended⟩ :=
    Ends.exists (Link.perform (dialect.build Change.votesToPoints)) link
  have computed : (ending (Link.perform (dialect.build Change.votesToPoints)) link).1 = .ok () := by
    decide +kernel
  rw [ended.ending_eq] at computed
  subst computed
  obtain ⟨events, added, restored, -⟩ :=
    SchemaDialect.enforcement_restored_iff sqlite talking told ended
  exact ⟨sqlite, talking, told, after, events, ended, added, restored rfl⟩

/-- A database that is locked when the column is to be renamed does not enforce foreign keys any
more. -/
theorem locked_database_unenforced :
    let link := enforcing [none, none, none, some "database is locked"]
    let dialect := link.connection.schemaDialect
    (ending (Link.perform (dialect.readContext Change.votesToPoints.prepared)) link).1.map
        TableContext.foreignKeys = .ok true ∧
      (ending (Link.perform (dialect.build Change.votesToPoints)) link).2.events.filterMap
          Event.taken? = [⟨"PRAGMA foreign_keys", []⟩, ⟨"PRAGMA table_info(\"users\")", []⟩,
            ⟨"PRAGMA foreign_keys = OFF", []⟩] ∧
      enforcedBehind true
        (ending (Link.perform (dialect.build Change.votesToPoints)) link).2.events = false := by
  intro link dialect
  exact ⟨by decide +kernel, by decide +kernel, by decide +kernel⟩

end SqlToolkit
