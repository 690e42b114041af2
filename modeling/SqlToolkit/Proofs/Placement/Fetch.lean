import SqlToolkit.Proofs.Chains.Refusals
import SqlToolkit.Proofs.Draft.Reads
import SqlToolkit.Proofs.Placement.Requests
/-!
Reads: the values that go with the statements of every read of a builder. They land in place, except
where a read replaces a select list that carries values.
-/

namespace SqlToolkit

/-- What can be read through a builder. A chunk is named by its page. -/
inductive Read where
  | get
  | getColumns (columns : List Identifier)
  | first
  | find (key : Operand)
  | value (column : Identifier)
  | values (column : Identifier)
  | valuesByKey (column key : Identifier)
  | implode (column : Identifier) (glue : String)
  | exists
  | aggregate (function : String) (columns : List String)
  | count (column : String)
  | minimum (column : String)
  | maximum (column : String)
  | sum (column : String)
  | average (column : String)
  | countForPages
  | paginate (perPage page : Nat)
  | simplePaginate (perPage page : Nat)
  | chunk (size page : Nat)

namespace Read

def Sends (builder : Builder) : Read → Request → Prop
  | get => builder.get.Sends
  | getColumns columns => (builder.getColumns columns).Sends
  | first => builder.first.Sends
  | find key => (builder.find key).Sends
  | value column => (builder.value column).Sends
  | values column => (builder.values column).Sends
  | valuesByKey column key => (builder.valuesByKey column key).Sends
  | implode column glue => (builder.implode column glue).Sends
  | .exists => builder.exists?.Sends
  | aggregate function columns => (builder.aggregateValue function columns).Sends
  | count column => (builder.count column).Sends
  | minimum column => (builder.minimum column).Sends
  | maximum column => (builder.maximum column).Sends
  | sum column => (builder.sum column).Sends
  | average column => (builder.average column).Sends
  | countForPages => builder.countForPages.Sends
  | paginate perPage page => (builder.paginate perPage page).Sends
  | simplePaginate perPage page => (builder.simplePaginate perPage page).Sends
  | chunk size page => fun request => ∃ chunks, (builder.chunks size).Reaches chunks ∧
      chunks.page = page ∧ chunks.next.Sends request

/-- Fragments among the arguments of a read take no values; the name of an aggregate is written as a
fragment, in capital letters. -/
def Fair (dialect : Dialect) : Read → Prop
  | getColumns columns => ∀ column ∈ columns, column.Fair dialect
  | find key => key.Fair dialect
  | value column => column.Fair dialect
  | values column => column.Fair dialect
  | valuesByKey column key => column.Fair dialect ∧ key.Fair dialect
  | implode column _ => column.Fair dialect
  | aggregate function _ => dialect.Supplied (Text.asciiUpper function) []
  | _ => True

/-- Reads that put a select list of their own in the place of the builder's. -/
def Reselects : Read → Prop
  | value _ => True
  | values _ => True
  | valuesByKey _ _ => True
  | implode _ _ => True
  | _ => False

def texts (dialect : Dialect) (draft : Draft) : Read → List Filled
  | get => [draft.select dialect]
  | getColumns columns =>
      [(if draft.columns = [] then Draft.run dialect draft [.select columns] else draft).select
        dialect]
  | first => [(Draft.run dialect draft [.limit 1]).select dialect]
  | find key =>
      [(Draft.run dialect draft
        [.whereCompare .and (.named "id") "=" key, .limit 1]).select dialect]
  | value column => [(Draft.run dialect draft [.select [column], .limit 1]).select dialect]
  | values column => [(Draft.run dialect draft [.select [column]]).select dialect]
  | valuesByKey column key => [(Draft.run dialect draft [.select [column, key]]).select dialect]
  | implode column _ => [(Draft.run dialect draft [.select [column]]).select dialect]
  | .exists => [draft.existence dialect]
  | aggregate function columns => [(draft.aggregated function columns).select dialect]
  | count column => [(draft.aggregated "count" [column]).select dialect]
  | minimum column => [(draft.aggregated "min" [column]).select dialect]
  | maximum column => [(draft.aggregated "max" [column]).select dialect]
  | sum column => [(draft.aggregated "sum" [column]).select dialect]
  | average column => [(draft.aggregated "avg" [column]).select dialect]
  | countForPages => [draft.count dialect]
  | paginate perPage page =>
      [draft.count dialect, (Draft.run dialect draft [.forPage page perPage]).select dialect]
  | simplePaginate perPage page =>
      [(Draft.run dialect draft [.forPage page perPage,
        .limit (Number.saturatingAdd perPage 1)]).select dialect]
  | chunk size page => [(Draft.run dialect draft [.forPage page size]).select dialect]

end Read

/-- The values of a request, put in turn into the markers of its statement, give `text`. -/
def Request.Fills (dialect : Dialect) (request : Request) (text : Filled) : Prop :=
  dialect.fill request.statement.sql request.statement.bindings = some text

namespace Follows

variable {dialect : Dialect} {exact kept : Prop} {builder : Builder} {draft : Draft}
  {request : Request}

theorem get_fills (follows : Follows dialect exact kept builder draft) (holds : exact)
    (accepted : builder.fault = none) (sent : builder.get.Sends request) :
    request.Fills dialect (draft.select dialect) := by
  rw [(Builder.get_sends_iff accepted).mp sent, follows.speaks]
  exact (follows.fill_iff _).mpr (follows.flatten.same holds)

/-- The builder sends a statement that is filled only if nothing was bound to the select list. -/
theorem projection_of_get_fills (follows : Follows dialect exact kept builder draft)
    (accepted : builder.fault = none)
    (fills : ∀ request, builder.get.Sends request → request.Fills dialect (draft.select dialect)) :
    builder.bindings.projection = draft.columnValues := by
  have filled := fills _ ((Builder.get_sends_iff accepted).mpr rfl)
  rw [follows.speaks] at filled
  exact follows.projection_of_flatten ((follows.fill_iff _).mp filled)

theorem aggregate_fills (follows : Follows dialect True kept builder draft) {function : String}
    {columns : List String} (silent : dialect.Silent (Text.asciiUpper function))
    (accepted : builder.fault = none)
    (sent : (builder.aggregateValue function columns).Sends request) :
    request.Fills dialect ((draft.aggregated function columns).select dialect) := by
  obtain ⟨agrees, values⟩ := follows.aggregated function columns silent
  rw [Builder.aggregateValue, Program.sends_map_iff] at sent
  rw [(@Builder.get_sends_iff (builder.aggregate function columns) _ accepted).mp sent,
    show (builder.aggregate function columns).dialect = dialect from follows.speaks]
  exact agrees.select.fill_eq_some_iff.mpr values

theorem getColumns_fills (follows : Follows dialect True kept builder draft)
    {columns : List Identifier} (accepted : builder.fault = none)
    (fair : ∀ column ∈ columns, column.Fair dialect)
    (sent : (builder.getColumns columns).Sends request) :
    request.Fills dialect ((if draft.columns = [] then Draft.run dialect draft [.select columns]
      else draft).select dialect) := by
  have listed : builder.query.columns = [] ↔ draft.columns = [] := by
    have lengths := follows.agrees.columns.length_eq
    rw [List.length_map] at lengths
    rw [← List.length_eq_zero_iff, ← List.length_eq_zero_iff, lengths]
  unfold Builder.getColumns at sent
  by_cases none : draft.columns = []
  · rw [if_pos (listed.mpr none)] at sent
    rw [if_pos none]
    have selected := follows.select fair fun _ => by simp [Draft.columnValues, none]
    exact selected.get_fills trivial accepted sent
  · rw [if_neg (mt listed.mp none)] at sent
    rw [if_neg none]
    exact follows.get_fills trivial accepted sent

theorem exists_fills (follows : Follows dialect True kept builder draft)
    (accepted : builder.fault = none) (sent : builder.exists?.Sends request) :
    request.Fills dialect (draft.existence dialect) := by
  rw [Builder.exists?, Builder.sound, accepted] at sent
  have asked : request =
      .fetch false ⟨builder.dialect.existence builder.query, builder.bindings.flatten⟩ :=
    Program.sends_fetch_iff.mp (Program.sends_map_iff.mp sent)
  have spelled : dialect.Spells (dialect.existence builder.query) (draft.existence dialect) :=
    follows.agrees.select.derived (by decide)
  have values : (draft.existence dialect).values = (draft.select dialect).values := by
    simp [Draft.existence, Filled.derived]
  rw [asked, follows.speaks]
  exact spelled.fill_eq_some_iff.mpr ((follows.flatten.same trivial).trans values.symm)

theorem countGroups_fills (follows : Follows dialect True kept builder draft)
    (accepted : builder.fault = none) (sent : builder.countGroups.Sends request) :
    request.Fills dialect (draft.groupCount dialect) := by
  rw [Builder.countGroups, Builder.sql, Builder.sound, accepted] at sent
  have asked := Program.sends_fetch_iff.mp (Program.sends_map_iff.mp sent)
  have spelled : dialect.Spells ("SELECT COUNT(*) AS aggregate FROM (" ++
      dialect.select builder.query ++ ") AS " ++ dialect.quoted "aggregate_table")
      (draft.groupCount dialect) :=
    follows.agrees.select.derived (by decide)
  have values : (draft.groupCount dialect).values = (draft.select dialect).values := by
    simp [Draft.groupCount, Filled.derived]
  rw [asked, follows.speaks]
  exact spelled.fill_eq_some_iff.mpr ((follows.flatten.same trivial).trans values.symm)

theorem countForPages_fills (follows : Follows dialect True kept builder draft)
    (accepted : builder.fault = none) (sent : builder.countForPages.Sends request) :
    request.Fills dialect (draft.count dialect) := by
  have groups : builder.unwindowed.query.groups = draft.groups := follows.agrees.groups
  unfold Builder.countForPages at sent
  unfold Draft.count
  dsimp only at sent
  rw [groups] at sent
  by_cases single : draft.groups = []
  · rw [if_pos single] at sent ⊢
    rw [Builder.count, Program.sends_map_iff] at sent
    exact follows.unwindowed.aggregate_fills (Dialect.Inert.silent (by decide)) accepted sent
  · rw [if_neg single] at sent ⊢
    exact follows.unwindowed.countGroups_fills accepted sent

/-- A builder with another select list holds only values of its own if nothing was bound to the list
before. -/
theorem reselect (follows : Follows dialect True kept builder draft) {columns : List Identifier}
    (fair : ∀ column ∈ columns, column.Fair dialect) :
    Follows dialect (builder.bindings.projection = []) kept (builder.select columns)
      (Draft.run dialect draft [.select columns]) := by
  have spare : builder.bindings.projection = [] → draft.columnValues = [] :=
    fun none => (follows.projection.same trivial).symm.trans none
  exact (follows.weaken fun _ => trivial).select fair spare

theorem fault_whereKey (accepted : builder.fault = none) (key : Operand) :
    (builder.whereKey key).fault = none := by
  unfold Builder.whereKey Builder.whereCompare
  split
  · exact accepted
  · rw [Builder.checked, if_pos builder.dialect.vendor.knowsOperator_equal]
    exact accepted

end Follows

namespace Read

variable {dialect : Dialect} {kept : Prop} {builder : Builder} {draft : Draft} {request : Request}

/-- What a read sends is filled by its values if the select list that it replaces carries none. -/
theorem fills {read : Read} (follows : Follows dialect True kept builder draft)
    (accepted : builder.fault = none) (fair : read.Fair dialect)
    (spare : read.Reselects → builder.bindings.projection = [])
    (sent : read.Sends builder request) :
    ∃ text ∈ read.texts dialect draft, request.Fills dialect text := by
  cases read with
  | get => exact ⟨_, .head _, follows.get_fills trivial accepted sent⟩
  | getColumns columns => exact ⟨_, .head _, follows.getColumns_fills accepted fair sent⟩
  | first =>
      have sent : (builder.limit 1).get.Sends request := Program.sends_map_iff.mp sent
      exact ⟨_, .head _, (follows.limit 1 accepted).get_fills trivial accepted sent⟩
  | find key =>
      have sent : ((builder.whereKey key).limit 1).get.Sends request :=
        Program.sends_map_iff.mp sent
      have keyed := Follows.fault_whereKey accepted key
      have found : Follows dialect True kept (builder.whereKey key) _ :=
        follows.whereCompare trivial fair keyed
      exact ⟨_, .head _, (found.limit 1 keyed).get_fills trivial keyed sent⟩
  | value column =>
      have sent : ((builder.select [column]).limit 1).get.Sends request :=
        Program.sends_map_iff.mp (Program.sends_map_iff.mp sent)
      have selected := follows.reselect (List.forall_mem_singleton.mpr fair)
      exact ⟨_, .head _,
        (selected.limit 1 accepted).get_fills (spare trivial) accepted sent⟩
  | values column =>
      have sent : (builder.select [column]).get.Sends request := Program.sends_map_iff.mp sent
      have selected := follows.reselect (List.forall_mem_singleton.mpr fair)
      exact ⟨_, .head _, selected.get_fills (spare trivial) accepted sent⟩
  | valuesByKey column key =>
      have sent : (builder.select [column, key]).get.Sends request := Program.sends_map_iff.mp sent
      have selected := follows.reselect
        (List.forall_mem_cons.mpr ⟨fair.1, List.forall_mem_singleton.mpr fair.2⟩)
      exact ⟨_, .head _, selected.get_fills (spare trivial) accepted sent⟩
  | implode column glue =>
      have sent : (builder.select [column]).get.Sends request :=
        Program.sends_map_iff.mp (Program.sends_map_iff.mp sent)
      have selected := follows.reselect (List.forall_mem_singleton.mpr fair)
      exact ⟨_, .head _, selected.get_fills (spare trivial) accepted sent⟩
  | «exists» => exact ⟨_, .head _, follows.exists_fills accepted sent⟩
  | aggregate function columns =>
      exact ⟨_, .head _, follows.aggregate_fills (Dialect.Supplied.silent fair) accepted sent⟩
  | count column =>
      exact ⟨_, .head _, follows.aggregate_fills (Dialect.Inert.silent (by decide)) accepted
        (Program.sends_map_iff.mp sent)⟩
  | minimum column =>
      exact ⟨_, .head _, follows.aggregate_fills (Dialect.Inert.silent (by decide)) accepted sent⟩
  | maximum column =>
      exact ⟨_, .head _, follows.aggregate_fills (Dialect.Inert.silent (by decide)) accepted sent⟩
  | sum column =>
      exact ⟨_, .head _, follows.aggregate_fills (Dialect.Inert.silent (by decide)) accepted
        (Program.sends_map_iff.mp sent)⟩
  | average column =>
      exact ⟨_, .head _, follows.aggregate_fills (Dialect.Inert.silent (by decide)) accepted
        (Program.sends_map_iff.mp sent)⟩
  | countForPages => exact ⟨_, .head _, follows.countForPages_fills accepted sent⟩
  | paginate perPage page =>
      rcases sent.of_bind with counted | ⟨total, rest⟩
      · exact ⟨_, .head _, follows.countForPages_fills accepted counted⟩
      · dsimp only at rest
        split at rest
        · cases rest
        · have paged := Program.sends_map_iff.mp rest
          exact ⟨_, .tail _ (.head _), follows.forPage.get_fills trivial accepted paged⟩
  | simplePaginate perPage page =>
      have sent := Program.sends_map_iff.mp sent
      exact ⟨_, .head _, follows.forPage.limited.get_fills trivial accepted sent⟩
  | chunk size page =>
      obtain ⟨chunks, reached, rfl, sent⟩ := sent
      have sent := Chunks.next_sends sent
      rw [reached.kept.1, reached.kept.2] at sent
      exact ⟨_, .head _, follows.forPage.get_fills trivial accepted sent⟩

theorem projection_of_single (read : Read) {exact : Prop} {final : Builder} {part : Draft}
    (follows : Follows dialect exact kept final part) (accepted : final.fault = none)
    (kept : final.bindings = builder.bindings) (bare : part.columnValues = [])
    (texts : read.texts dialect draft = [part.select dialect])
    (sends : ∀ {request}, final.get.Sends request → read.Sends builder request)
    (fills : ∀ request, read.Sends builder request →
      ∃ text ∈ read.texts dialect draft, request.Fills dialect text) :
    builder.bindings.projection = [] := by
  rw [← kept]
  refine (follows.projection_of_get_fills accepted fun request sent => ?_).trans bare
  obtain ⟨text, member, filled⟩ := fills request (sends sent)
  rw [texts] at member
  rwa [List.mem_singleton.mp member] at filled

/-- A read that replaces a select list which carries values sends them along. -/
theorem projection_of_fills {read : Read} (follows : Follows dialect True kept builder draft)
    (accepted : builder.fault = none) (fair : read.Fair dialect) (reselects : read.Reselects)
    (fills : ∀ request, read.Sends builder request →
      ∃ text ∈ read.texts dialect draft, request.Fills dialect text) :
    builder.bindings.projection = [] := by
  have bare : ∀ columns : List Identifier,
      (Draft.run dialect draft [.select columns]).columnValues = [] := by
    intro columns
    simp [Draft.run, Draft.step, Draft.columnValues, List.flatMap_map]
  cases read with
  | value column =>
      have selected := follows.reselect (List.forall_mem_singleton.mpr fair)
      have empty : (Draft.run dialect draft [.select [column], .limit 1]).columnValues = [] :=
        (Draft.columnValues_changeWindow _ _).trans (bare [column])
      exact projection_of_single (.value column) (selected.limit 1 accepted) accepted rfl empty rfl
        (fun sent => Program.sends_map_iff.mpr (Program.sends_map_iff.mpr sent)) fills
  | values column =>
      have selected := follows.reselect (List.forall_mem_singleton.mpr fair)
      exact projection_of_single (.values column) selected accepted rfl (bare [column]) rfl
        Program.sends_map_iff.mpr fills
  | valuesByKey column key =>
      have selected := follows.reselect
        (List.forall_mem_cons.mpr ⟨fair.1, List.forall_mem_singleton.mpr fair.2⟩)
      exact projection_of_single (.valuesByKey column key) selected accepted rfl
        (bare [column, key]) rfl Program.sends_map_iff.mpr fills
  | implode column glue =>
      have selected := follows.reselect (List.forall_mem_singleton.mpr fair)
      exact projection_of_single (.implode column glue) selected accepted rfl (bare [column]) rfl
        (fun sent => Program.sends_map_iff.mpr (Program.sends_map_iff.mpr sent)) fills
  | _ => cases reselects

end Read

/-- Every statement that a read of an orderly builder sends has its values in place, just if the
read does not replace a select list that carries values. -/
theorem read_values_in_place_iff (dialect : Dialect) (steps : List Step) (read : Read)
    (fair : FairSteps dialect steps) (orderly : OrderlySteps dialect {} steps)
    (accepted : (({ dialect } : Builder).run steps).fault = none) (readFair : read.Fair dialect) :
    (∀ request, read.Sends (({ dialect } : Builder).run steps) request →
      ∃ text ∈ read.texts dialect (Draft.run dialect {} steps), request.Fills dialect text) ↔
    (read.Reselects → (({ dialect } : Builder).run steps).bindings.projection = []) := by
  have follows : Follows dialect True _ _ _ := .chain fair (fun _ => orderly) accepted
  constructor
  · exact fun fills reselects => Read.projection_of_fills follows accepted readFair reselects fills
  · exact fun spare request sent => Read.fills follows accepted readFair spare sent

def labelledSteps : List Step :=
  [.selectRaw "? AS label" [.text "user"], .table (.named "users"),
    .whereCompare .and (.named "age") ">" (.bound (.integer 18))]

theorem labelled_pages_in_place :
    (({ dialect := Vendor.sqlite.dialect } : Builder).run labelledSteps).bindings.projection =
        [.text "user"] ∧
      ∀ request,
        (Read.paginate 10 2).Sends
          (({ dialect := Vendor.sqlite.dialect } : Builder).run labelledSteps) request →
        ∃ text ∈ (Read.paginate 10 2).texts Vendor.sqlite.dialect
          (Draft.run Vendor.sqlite.dialect {} labelledSteps),
          request.Fills Vendor.sqlite.dialect text := by
  refine ⟨rfl, (read_values_in_place_iff Vendor.sqlite.dialect labelledSteps (.paginate 10 2) ?fair
    ⟨trivial, trivial, trivial, trivial⟩ rfl trivial).mpr nofun⟩
  simp only [labelledSteps, FairSteps, Step.Fair, Identifier.Fair, Operand.Fair, and_true]
  decide

/-- Reading the values of one column keeps the value of the select list that it replaces. -/
theorem labelled_values_left_over :
    let builder := ({ dialect := Vendor.sqlite.dialect } : Builder).run labelledSteps
    FairSteps Vendor.sqlite.dialect labelledSteps ∧
      OrderlySteps Vendor.sqlite.dialect {} labelledSteps ∧ builder.fault = none ∧
      ∃ request, (Read.values (.named "name")).Sends builder request ∧
        Vendor.sqlite.dialect.fill request.statement.sql request.statement.bindings = none := by
  refine ⟨?fair, ⟨trivial, trivial, trivial, trivial⟩, rfl, _,
    Program.sends_map_iff.mpr ((Builder.get_sends_iff rfl).mpr rfl), by decide +kernel⟩
  simp only [labelledSteps, FairSteps, Step.Fair, Identifier.Fair, Operand.Fair, and_true]
  decide

end SqlToolkit
