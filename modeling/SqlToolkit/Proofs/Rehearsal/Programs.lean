import SqlToolkit.Query.Change
import SqlToolkit.Schema.Build
/-!
Programs that change a database, and the statements of their runs: of one whose requests are
answered somehow, and of a rehearsal, in which nothing comes of any request.
-/

namespace SqlToolkit

variable {α β : Type}

/-- The statements of a run without effect, and how it ends. -/
structure Rehearsal (α : Type) where
  statements : List Statement
  result : Except Error α

def Rehearsal.andThen (first : Rehearsal α) (next : α → Rehearsal β) : Rehearsal β :=
  match first.result with
  | .ok value => ⟨first.statements ++ (next value).statements, (next value).result⟩
  | .error error => ⟨first.statements, .error error⟩

namespace Program

def rehearsed : Program α → Rehearsal α
  | result value => ⟨[], .ok value⟩
  | failure error => ⟨[], .error error⟩
  | attached next => next.rehearsed
  | send request next =>
      let later := (next request.idleAnswer).rehearsed
      ⟨request.statement :: later.statements, later.result⟩

/-- Some answers take the program through these statements to a value. -/
inductive Completes : Program α → List Statement → α → Prop where
  | result {value : α} : Completes (result value) [] value
  | attached {next : Program α} {statements : List Statement} {value : α}
      (rest : Completes next statements value) : Completes (attached next) statements value
  | send {request : Request} {next : request.Answer → Program α} {statements : List Statement}
      {value : α} (answer : request.Answer) (rest : Completes (next answer) statements value) :
      Completes (send request next) (request.statement :: statements) value

theorem rehearsed_bind (program : Program α) (f : α → Program β) :
    (program >>= f).rehearsed = program.rehearsed.andThen fun value => (f value).rehearsed := by
  induction program with
  | result value => rfl
  | failure error => rfl
  | attached next ih => exact ih
  | send request next ih =>
      have later := ih request.idleAnswer
      have step : (send request next >>= f).rehearsed =
          ⟨request.statement :: (next request.idleAnswer >>= f).rehearsed.statements,
            (next request.idleAnswer >>= f).rehearsed.result⟩ := rfl
      rw [step, later]
      simp only [rehearsed, Rehearsal.andThen]
      cases (next request.idleAnswer).rehearsed.result <;> rfl

theorem Completes.of_bind {program : Program α} {f : α → Program β} {statements : List Statement}
    {value : β} (completes : (program >>= f).Completes statements value) :
    ∃ first middle second, program.Completes first middle ∧ (f middle).Completes second value ∧
      statements = first ++ second := by
  induction program generalizing statements with
  | result middle => exact ⟨[], middle, statements, .result, completes, rfl⟩
  | failure error => cases completes
  | attached next ih =>
      cases completes with
      | attached rest =>
          obtain ⟨first, middle, second, begun, ended, same⟩ := ih rest
          exact ⟨first, middle, second, .attached begun, ended, same⟩
  | send request next ih =>
      cases completes with
      | send answer rest =>
          obtain ⟨first, middle, second, begun, ended, rfl⟩ := ih answer rest
          exact ⟨request.statement :: first, middle, second, .send answer begun, ended, rfl⟩

theorem Completes.of_check {checked : Except Fault α} {statements : List Statement} {value : α}
    (completes : (check checked).Completes statements value) :
    checked = .ok value ∧ statements = [] := by
  cases checked with
  | ok result =>
      cases completes
      exact ⟨rfl, rfl⟩
  | error fault => cases completes

/-- A program whose statements do not depend on answers: a rehearsal of it goes as any run that
completes. -/
def Straight (program : Program α) : Prop :=
  ∀ statements value, program.Completes statements value →
    ∃ other, program.rehearsed = ⟨statements, .ok other⟩

theorem straight_pure (value : α) : Straight (pure value) := by
  rintro _ _ ⟨⟩
  exact ⟨value, rfl⟩

theorem straight_ask (request : Request) : (ask request).Straight := by
  rintro _ _ (_ | _ | ⟨answer, rest⟩)
  cases rest
  exact ⟨request.idleAnswer, rfl⟩

namespace Straight

theorem attached {next : Program α} (straight : next.Straight) : (attached next).Straight := by
  rintro statements value (_ | rest | _)
  exact straight statements value rest

theorem seq {first : Program α} {second : Program β} (begins : first.Straight)
    (goesOn : second.Straight) : (first >>= fun _ => second).Straight := by
  intro statements value completes
  obtain ⟨front, middle, back, begun, ended, rfl⟩ := completes.of_bind
  obtain ⟨_, rehearsed⟩ := begins front middle begun
  obtain ⟨other, later⟩ := goesOn back value ended
  refine ⟨other, ?_⟩
  rw [rehearsed_bind, rehearsed, Rehearsal.andThen, later]

theorem map {program : Program α} (straight : program.Straight) (f : α → β) :
    (program >>= fun value => pure (f value)).Straight := by
  intro statements value completes
  obtain ⟨front, middle, back, begun, ended, rfl⟩ := completes.of_bind
  obtain ⟨other, rehearsed⟩ := straight front middle begun
  cases ended
  exact ⟨f other, by rw [rehearsed_bind, rehearsed]; rfl⟩

theorem check {checked : Except Fault α} {f : α → Program β}
    (goesOn : ∀ value, checked = .ok value → (f value).Straight) :
    (check checked >>= f).Straight := by
  cases checked with
  | ok value => exact goesOn value rfl
  | error fault => exact fun _ _ completes => nomatch completes

end Straight

end Program

open Program

/-! Changing rows -/

namespace Builder

variable (builder : Builder)

theorem straight_insertMany (records : List Record) : (builder.insertMany records).Straight := by
  refine .check fun _ _ => ?_
  by_cases none : records = []
  · rw [if_pos none]
    exact straight_pure ()
  · rw [if_neg none]
    exact .check fun sql _ => (straight_ask _).map _

theorem straight_insertGetKey (record : Record) (keyColumn : Option String) :
    (builder.insertGetKey record keyColumn).Straight := by
  refine .check fun _ _ => .check fun sql _ => ?_
  split
  · exact (straight_ask _).map _
  · exact (straight_ask _).map _

theorem straight_update (record : Record) : (builder.update record).Straight :=
  .check fun _ _ => .check fun _ _ => (straight_ask _).map _

theorem straight_delete : builder.delete.Straight :=
  .check fun _ _ => .check fun _ _ => (straight_ask _).map _

theorem straight_executeAll (statements : List Statement) : (executeAll statements).Straight := by
  induction statements with
  | nil => exact straight_pure ()
  | cons statement rest ih => exact (straight_ask _).seq ih

theorem straight_truncate : builder.truncate.Straight :=
  .check fun _ _ => .attached (.check fun statements _ => straight_executeAll statements)

end Builder

/-! Changing tables -/

namespace SchemaDialect

theorem straight_executeTexts (texts : List String) : (executeTexts texts).Straight := by
  induction texts with
  | nil => exact straight_pure ()
  | cons text rest ih => exact (straight_ask _).seq ih

theorem rehearsed_executeTexts (texts : List String) :
    (executeTexts texts).rehearsed = ⟨texts.map (⟨·, []⟩), .ok ()⟩ := by
  induction texts with
  | nil => rfl
  | cons text rest ih =>
      have step : (executeTexts (text :: rest)).rehearsed =
          ⟨⟨text, []⟩ :: (executeTexts rest).rehearsed.statements,
            (executeTexts rest).rehearsed.result⟩ := rfl
      rw [step, ih]
      rfl

theorem completes_executeTexts {texts : List String} {statements : List Statement}
    (completes : (executeTexts texts).Completes statements ()) :
    statements = texts.map (⟨·, []⟩) := by
  obtain ⟨_, rehearsed⟩ := straight_executeTexts texts statements () completes
  rw [rehearsed_executeTexts] at rehearsed
  injection rehearsed with same
  exact same.symm

theorem build_blind {dialect : SchemaDialect} {blueprint : Blueprint}
    (blind : dialect.needsContext blueprint.prepared = false) :
    dialect.build blueprint =
      Program.check (dialect.statements blueprint.prepared {}) >>= executeTexts := by
  simp only [build, blind]
  rfl

theorem build_inspecting {dialect : SchemaDialect} {blueprint : Blueprint}
    (inspecting : dialect.needsContext blueprint.prepared = true) :
    dialect.build blueprint = (dialect.readContext blueprint.prepared >>= fun context =>
      Program.check (dialect.statements blueprint.prepared context) >>= executeTexts) := by
  simp only [build, inspecting]
  rfl

end SchemaDialect

/-! Changes -/

/-- A change that is made through a connection: by a builder, by a request as it is, or by a
blueprint. -/
inductive Change where
  | insert (builder : Builder) (record : Record)
  | insertMany (builder : Builder) (records : List Record)
  | insertGetKey (builder : Builder) (record : Record) (keyColumn : Option String)
  | update (builder : Builder) (record : Record)
  | increment (builder : Builder) (column : String) (amount : Int) (extra : Record)
  | decrement (builder : Builder) (column : String) (amount : Int) (extra : Record)
  | delete (builder : Builder)
  | truncate (builder : Builder)
  | ask (request : Request)
  | build (blueprint : Blueprint)

namespace Change

def program (dialect : SchemaDialect) : Change → Program Unit
  | insert builder record => builder.insert record
  | insertMany builder records => builder.insertMany records
  | insertGetKey builder record keyColumn =>
      builder.insertGetKey record keyColumn >>= fun _ => pure ()
  | update builder record => builder.update record >>= fun _ => pure ()
  | increment builder column amount extra =>
      builder.increment column amount extra >>= fun _ => pure ()
  | decrement builder column amount extra =>
      builder.decrement column amount extra >>= fun _ => pure ()
  | delete builder => builder.delete >>= fun _ => pure ()
  | truncate builder => builder.truncate
  | ask request => Program.ask request >>= fun _ => pure ()
  | build blueprint => dialect.build blueprint

/-- All changes, one behind the other, up to the first that fails. -/
def programs (dialect : SchemaDialect) (changes : List Change) : Program Unit :=
  changes.forM (program dialect)

/-- Inspects the database before its statements are written. -/
def Inspects (dialect : SchemaDialect) : Change → Prop
  | build blueprint => dialect.needsContext blueprint.prepared = true
  | _ => False

theorem straight_program {dialect : SchemaDialect} {change : Change}
    (plain : ¬change.Inspects dialect) : (change.program dialect).Straight := by
  cases change with
  | insert builder record => exact builder.straight_insertMany [record]
  | insertMany builder records => exact builder.straight_insertMany records
  | insertGetKey builder record keyColumn =>
      exact (builder.straight_insertGetKey record keyColumn).map _
  | update builder record => exact (builder.straight_update record).map _
  | increment builder column amount extra => exact (builder.straight_update _).map _
  | decrement builder column amount extra => exact (builder.straight_update _).map _
  | delete builder => exact builder.straight_delete.map _
  | truncate builder => exact builder.straight_truncate
  | ask request => exact (straight_ask request).map _
  | build blueprint =>
      rw [program, SchemaDialect.build_blind (Bool.eq_false_iff.mpr plain)]
      exact .check fun texts _ => SchemaDialect.straight_executeTexts texts

end Change

end SqlToolkit
