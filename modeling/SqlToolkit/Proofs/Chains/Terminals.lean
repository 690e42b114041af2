import SqlToolkit.Connection.Link
import SqlToolkit.Proofs.Chains.Refusals
import SqlToolkit.Proofs.Placement.Fetch
import SqlToolkit.Proofs.Transactions.Recording
import SqlToolkit.Query.Change
/-!
Operations at the end of a chain. A builder that has kept a fault answers all of them with it, and
nothing is sent.
-/

namespace SqlToolkit

namespace Program

variable {α β : Type}

/-- The program without its result. -/
def silently (program : Program α) : Program Unit :=
  program >>= fun _ => pure ()

end Program

/-- The program of a read, apart from what it results in. Any page of the chunks may be next. -/
def Read.program (builder : Builder) : Read → Program Unit
  | get => builder.get.silently
  | getColumns columns => (builder.getColumns columns).silently
  | first => builder.first.silently
  | find key => (builder.find key).silently
  | value column => (builder.value column).silently
  | values column => (builder.values column).silently
  | valuesByKey column key => (builder.valuesByKey column key).silently
  | implode column glue => (builder.implode column glue).silently
  | .exists => builder.exists?.silently
  | aggregate function columns => (builder.aggregateValue function columns).silently
  | count column => (builder.count column).silently
  | minimum column => (builder.minimum column).silently
  | maximum column => (builder.maximum column).silently
  | sum column => (builder.sum column).silently
  | average column => (builder.average column).silently
  | countForPages => builder.countForPages.silently
  | paginate perPage page => (builder.paginate perPage page).silently
  | simplePaginate perPage page => (builder.simplePaginate perPage page).silently
  | chunk size page => (Chunks.mk builder size page (size = 0)).next.silently

inductive Terminal where
  | read (read : Read)
  | insert (record : Record)
  | insertMany (records : List Record)
  | insertGetKey (record : Record) (keyColumn : Option String)
  | update (record : Record)
  | increment (column : String) (amount : Int) (extra : Record)
  | decrement (column : String) (amount : Int) (extra : Record)
  | delete
  | deleteKey (key : Operand)
  | truncate

namespace Terminal

def program (builder : Builder) : Terminal → Program Unit
  | read taken => taken.program builder
  | insert record => builder.insert record
  | insertMany records => builder.insertMany records
  | insertGetKey record keyColumn => (builder.insertGetKey record keyColumn).silently
  | update record => (builder.update record).silently
  | increment column amount extra => (builder.increment column amount extra).silently
  | decrement column amount extra => (builder.decrement column amount extra).silently
  | delete => builder.delete.silently
  | deleteKey key => (builder.deleteKey key).silently
  | truncate => builder.truncate

/-- Chunks of no rows are none, whatever the builder. -/
def Idle : Terminal → Prop
  | read (.chunk 0 _) => True
  | _ => False

end Terminal

namespace Builder

variable {builder : Builder} {fault : Fault}

theorem calls_faulted (kept : builder.fault = some fault) (calls : List Call) :
    (builder.calls calls).fault = some fault := by
  rw [fault_calls, kept]
  rfl

theorem call_faulted (kept : builder.fault = some fault) (call : Call) :
    (builder.call call).fault = some fault :=
  calls_faulted kept [call]

theorem sound_faulted (kept : builder.fault = some fault) : builder.sound = .error fault := by
  rw [sound, kept]

theorem get_faulted (kept : builder.fault = some fault) :
    builder.get = .failure (.invalidArgument fault) := by
  rw [get, statement, sql, sound_faulted kept]
  rfl

theorem getColumns_faulted (kept : builder.fault = some fault) (columns : List Identifier) :
    builder.getColumns columns = .failure (.invalidArgument fault) := by
  unfold getColumns
  split
  · exact get_faulted (call_faulted kept (.select columns))
  · exact get_faulted kept

theorem first_faulted (kept : builder.fault = some fault) :
    builder.first = .failure (.invalidArgument fault) := by
  have limited : (builder.limit 1).fault = some fault := call_faulted kept (.limit 1)
  rw [first, get_faulted limited]
  rfl

theorem values_faulted (kept : builder.fault = some fault) (column : Identifier) :
    builder.values column = .failure (.invalidArgument fault) := by
  have selected : (builder.select [column]).fault = some fault := kept
  rw [values, get_faulted selected]
  rfl

theorem aggregateValue_faulted (kept : builder.fault = some fault) (function : String)
    (columns : List String) :
    builder.aggregateValue function columns = .failure (.invalidArgument fault) := by
  have replaced : (builder.aggregate function columns).fault = some fault := kept
  rw [aggregateValue, get_faulted replaced]
  rfl

theorem countForPages_faulted (kept : builder.fault = some fault) :
    builder.countForPages = .failure (.invalidArgument fault) := by
  have unwindowed : builder.unwindowed.fault = some fault := kept
  unfold countForPages
  dsimp only
  split
  · rw [count, aggregateValue_faulted unwindowed]
    rfl
  · rw [countGroups, sql, sound_faulted unwindowed]
    rfl

theorem insertMany_faulted (kept : builder.fault = some fault) (records : List Record) :
    builder.insertMany records = .failure (.invalidArgument fault) := by
  rw [insertMany, sound_faulted kept]
  rfl

theorem update_faulted (kept : builder.fault = some fault) (record : Record) :
    builder.update record = .failure (.invalidArgument fault) := by
  rw [update, sound_faulted kept]
  rfl

theorem delete_faulted (kept : builder.fault = some fault) :
    builder.delete = .failure (.invalidArgument fault) := by
  rw [delete, sound_faulted kept]
  rfl

end Builder

theorem Read.program_faulted {builder : Builder} {fault : Fault}
    (kept : builder.fault = some fault) (read : Read)
    (busy : ∀ page, read ≠ .chunk 0 page) :
    read.program builder = .failure (.invalidArgument fault) := by
  cases read with
  | get => rw [program, Builder.get_faulted kept]; rfl
  | getColumns columns => rw [program, Builder.getColumns_faulted kept]; rfl
  | first => rw [program, Builder.first_faulted kept]; rfl
  | find key =>
      have keyed : (builder.whereKey key).fault = some fault :=
        Builder.call_faulted kept (.whereCompare .and (.named "id") "=" key)
      rw [program, Builder.find, Builder.first_faulted keyed]
      rfl
  | value column =>
      have selected : (builder.select [column]).fault = some fault := kept
      rw [program, Builder.value, Builder.first_faulted selected]
      rfl
  | values column => rw [program, Builder.values_faulted kept]; rfl
  | valuesByKey column key =>
      have selected : (builder.select [column, key]).fault = some fault := kept
      rw [program, Builder.valuesByKey, Builder.get_faulted selected]
      rfl
  | implode column glue => rw [program, Builder.implode, Builder.values_faulted kept]; rfl
  | «exists» => rw [program, Builder.exists?, Builder.sound_faulted kept]; rfl
  | aggregate function columns => rw [program, Builder.aggregateValue_faulted kept]; rfl
  | count column => rw [program, Builder.count, Builder.aggregateValue_faulted kept]; rfl
  | minimum column => rw [program, Builder.minimum, Builder.aggregateValue_faulted kept]; rfl
  | maximum column => rw [program, Builder.maximum, Builder.aggregateValue_faulted kept]; rfl
  | sum column => rw [program, Builder.sum, Builder.aggregateValue_faulted kept]; rfl
  | average column => rw [program, Builder.average, Builder.aggregateValue_faulted kept]; rfl
  | countForPages => rw [program, Builder.countForPages_faulted kept]; rfl
  | paginate perPage page => rw [program, Builder.paginate, Builder.countForPages_faulted kept]; rfl
  | simplePaginate perPage page =>
      have peeked : ((builder.forPage page perPage).changeWindow fun window =>
          { window with limit := some (Number.saturatingAdd perPage 1) }).fault = some fault := kept
      rw [program, Builder.simplePaginate, Builder.get_faulted peeked]
      rfl
  | chunk size page =>
      have positive : size ≠ 0 := fun zero => busy page (zero ▸ rfl)
      have paged : (builder.forPage page size).fault = some fault := kept
      rw [program, Chunks.next, if_neg (by simpa using positive), Builder.get_faulted paged]
      rfl

theorem Terminal.program_faulted {builder : Builder} {fault : Fault}
    (kept : builder.fault = some fault) {terminal : Terminal} (busy : ¬terminal.Idle) :
    terminal.program builder = .failure (.invalidArgument fault) := by
  cases terminal with
  | read read =>
      refine read.program_faulted kept ?_
      rintro page rfl
      exact busy trivial
  | insert record => exact Builder.insertMany_faulted kept [record]
  | insertMany records => exact Builder.insertMany_faulted kept records
  | insertGetKey record keyColumn =>
      rw [program, Builder.insertGetKey, Builder.sound_faulted kept]
      rfl
  | update record => rw [program, Builder.update_faulted kept]; rfl
  | increment column amount extra =>
      rw [program, Builder.increment, Builder.adjust, Builder.update_faulted kept]
      rfl
  | decrement column amount extra =>
      rw [program, Builder.decrement, Builder.adjust, Builder.update_faulted kept]
      rfl
  | delete => rw [program, Builder.delete_faulted kept]; rfl
  | deleteKey key =>
      have keyed : (builder.whereKey key).fault = some fault :=
        Builder.call_faulted kept (.whereCompare .and (.named "id") "=" key)
      rw [program, Builder.deleteKey]
      exact congrArg Program.silently (Builder.delete_faulted keyed)
  | truncate =>
      rw [program, Builder.truncate, Builder.sound_faulted kept]
      rfl

theorem Terminal.program_idle {terminal : Terminal} (idle : terminal.Idle) (builder : Builder) :
    terminal.program builder = .result () := by
  match terminal, idle with
  | .read (.chunk 0 page), _ => rfl

theorem Terminal.not_sends_faulted {builder : Builder} {fault : Fault}
    (kept : builder.fault = some fault) (terminal : Terminal) (request : Request) :
    ¬(terminal.program builder).Sends request := by
  by_cases idle : terminal.Idle
  · rw [program_idle idle]
    nofun
  · rw [program_faulted kept idle]
    nofun

/-- The connection and its database are as before. -/
theorem Terminal.perform_faulted {σ : Type} [Database σ] {builder : Builder} {fault : Fault}
    (kept : builder.fault = some fault) (terminal : Terminal) (link : Link σ) :
    ∃ reply, Ends (Link.perform (terminal.program builder)) link reply link := by
  by_cases idle : terminal.Idle
  · rw [program_idle idle]
    exact ⟨.ok (), rfl⟩
  · rw [program_faulted kept idle]
    exact ⟨.error (.invalidArgument fault), rfl⟩

/-- A call with faulty arguments changes nothing, the first refusal of a chain is kept, and no
operation on a builder that keeps one sends anything. -/
theorem first_refusal_kept_and_nothing_sent (builder : Builder) :
    (∀ call fault, call.ownFault builder.dialect.vendor = some fault →
      (builder.call call).query = builder.query ∧
        (builder.call call).bindings = builder.bindings) ∧
    (∀ calls, (builder.calls calls).fault =
      builder.fault.or (calls.findSome? (Builder.Call.refusal builder.dialect.vendor))) ∧
    ∀ fault, builder.fault = some fault →
      (∀ calls, (builder.calls calls).fault = some fault) ∧
      ∀ terminal : Terminal,
        (¬terminal.Idle → terminal.program builder = .failure (.invalidArgument fault)) ∧
        (∀ request, ¬(terminal.program builder).Sends request) ∧
        ∀ (σ : Type) [Database σ] (link : Link σ),
          ∃ reply, Ends (Link.perform (terminal.program builder)) link reply link := by
  refine ⟨?unchanged, ?first, fun fault kept => ⟨?later, fun terminal => ⟨?fails, ?sends, ?ends⟩⟩⟩
  case unchanged =>
    intro call fault refused
    rw [Builder.call_refused refused]
    exact ⟨rfl, rfl⟩
  case first =>
    intro calls
    rw [← Builder.Call.firstFault_eq]
    exact Builder.fault_calls calls builder
  case later => exact Builder.calls_faulted kept
  case fails => exact Terminal.program_faulted kept
  case sends => exact terminal.not_sends_faulted kept
  case ends =>
    intro σ _ link
    exact terminal.perform_faulted kept link

/-- A limit below zero in front of an operator that no vendor knows. -/
def twiceRefused : Builder :=
  ({ dialect := Vendor.sqlite.dialect } : Builder).calls
    [.limit (-1), .whereCompare .and (.named "id") "near" (.bound (.integer 7))]

theorem twice_refused_sends_nothing :
    (twiceRefused.call (.having .and (.named "id") "near" (.bound (.integer 7)))).query =
        twiceRefused.query ∧
      twiceRefused.fault = some (.negativeLimit (-1)) ∧
      (Terminal.truncate.program twiceRefused =
        .failure (.invalidArgument (.negativeLimit (-1)))) ∧
      ∀ request, ¬((Terminal.read (.paginate 10 1)).program twiceRefused).Sends request := by
  obtain ⟨-, first, -⟩ :=
    first_refusal_kept_and_nothing_sent ({ dialect := Vendor.sqlite.dialect } : Builder)
  have kept : twiceRefused.fault = some (.negativeLimit (-1)) := (first _).trans rfl
  obtain ⟨unchanged, -, later⟩ := first_refusal_kept_and_nothing_sent twiceRefused
  obtain ⟨-, ends⟩ := later _ kept
  refine ⟨(unchanged _ (.invalidOperator "near") ?_).1, kept, (ends .truncate).1 id,
    (ends (.read (.paginate 10 1))).2.1⟩
  rfl

end SqlToolkit
