import SqlToolkit.Proofs.Transactions.Work
/-!
Routines: what is done on a connection by the one who holds it, one call after the other, where
later calls may depend on how the earlier ones ended and on the connection as it is then. A run of a
routine makes its calls at certain points, and a fact about a run is a fact about these.
-/

namespace SqlToolkit

variable {σ α β : Type}

/-- A call on a connection. -/
inductive Operation where
  | ask (request : Request)
  | begin
  | commit
  | rollback
  | setLogging (on : Bool)
  | flush
  | setWrite (session : Session)
  | setRead (session : Option Session)
  | reconnect
  | disconnect
  deriving DecidableEq, Repr

namespace Operation

abbrev Answer : Operation → Type
  | ask request => request.Answer
  | _ => Unit

def perform [Database σ] : (operation : Operation) → Action σ operation.Answer
  | ask request => Link.run request
  | begin => Link.begin
  | commit => Link.commit
  | rollback => Link.rollback
  | setLogging on => Link.change fun connection => { connection with logging := on }
  | flush => Link.change fun connection => { connection with log := [] }
  | setWrite session => Link.setWrite session
  | setRead session => Link.setRead session
  | reconnect => Link.reconnect
  | disconnect => Link.disconnect

/-- The statement that the call is made for, if it is made for one. -/
def statements : Operation → List Statement
  | ask request => [request.statement]
  | _ => []

end Operation

inductive Routine : Type → Type 1 where
  | done {α : Type} (value : α) : Routine α
  | fail {α : Type} (error : Error) : Routine α
  | look {α : Type} (next : Connection → Routine α) : Routine α
  | call {α : Type} (operation : Operation)
      (next : Except Error operation.Answer → Routine α) : Routine α
  | pretend {α β : Type} (body : Routine β) (next : Except Error (List Logged) → Routine α) :
      Routine α

/-- A call of a run, at the point where it is made. -/
structure Act (σ : Type) where
  operation : Operation
  before : Link σ

/-- However the call ends, it carries on what there is when it is made. -/
def Act.Carries [Database σ] (R : Link σ → Link σ → Prop) (act : Act σ) : Prop :=
  ∀ reply reached, Ends act.operation.perform act.before reply reached → R act.before reached

namespace Link

def switched (link : Link σ) (pretending logging : Bool) (log : List Logged) : Link σ :=
  { link with connection := { link.connection with pretending, logging, log } }

/-- The point at which what is pretended begins. -/
def pretended (link : Link σ) : Link σ :=
  link.switched true true []

/-- The point at which pretending ends: the switches and the log are again as they were before. -/
def restored (final before : Link σ) : Link σ :=
  final.switched before.connection.pretending before.connection.logging before.connection.log

theorem of_pretend [Database σ] {action : Action σ α} {before after : Link σ}
    {result : Except Error (List Logged)} (ended : Ends (pretend action) before result after) :
    ∃ inner final, Ends action before.pretended inner final ∧
      result = inner.map (fun _ => final.connection.log) ∧ after = final.restored before := by
  unfold pretend at ended
  obtain ⟨inner, final, performed, rest⟩ := (of_change_bind (of_current ended)).of_outcome_bind
  refine ⟨inner, final, performed, ?_⟩
  replace rest := of_change_bind (of_current rest)
  cases inner with
  | ok value =>
      obtain ⟨rfl, rfl⟩ := rest.of_pure
      exact ⟨rfl, rfl⟩
  | error error =>
      obtain ⟨rfl, rfl⟩ := rest.of_throw
      exact ⟨rfl, rfl⟩

end Link

namespace Routine

def andThen : {α : Type} → Routine α → (Except Error α → Routine β) → Routine β
  | _, done value, next => next (.ok value)
  | _, fail error, next => next (.error error)
  | _, look more, next => look fun connection => (more connection).andThen next
  | _, call operation more, next => call operation fun reply => (more reply).andThen next
  | _, pretend body more, next => pretend body fun captured => (more captured).andThen next

/-- A scoped transaction, call by call. -/
def transaction (body : Routine α) : Routine α :=
  call .begin fun (begun : Except Error Unit) => match begun with
    | .error error => fail error
    | .ok () => body.andThen fun
        | .error error => call .rollback fun _ => fail error
        | .ok value => call .commit fun (committed : Except Error Unit) => match committed with
            | .ok () => done value
            | .error error => call .rollback fun _ => fail error

def ofWork : {α : Type} → Work α → Routine α
  | _, .done value => done value
  | _, .fail error => fail error
  | _, .ask request next => call (.ask request) fun reply => ofWork (next reply)
  | _, .scope body next => (transaction (ofWork body)).andThen fun ended => ofWork (next ended)

section Performing

variable [Database σ]

def perform : {α : Type} → Routine α → Action σ α
  | _, done value => pure value
  | _, fail error => throw error
  | _, look next => do perform (next (← Link.current))
  | _, call operation next => do perform (next (← outcome operation.perform))
  | _, pretend body next => do perform (next (← outcome (Link.pretend body.perform)))

theorem perform_andThen (first : Routine α) (next : Except Error α → Routine β) :
    (first.andThen next).perform (σ := σ) =
      outcome first.perform >>= fun ended => (next ended).perform := by
  induction first with
  | done value => rfl
  | fail error => rfl
  | look more ih =>
      funext link
      simp only [andThen, perform, ih]
      rfl
  | call operation more ih =>
      funext link
      simp only [andThen, perform, ih]
      simp only [bind, EStateM.bind, outcome]
      cases operation.perform link <;> rfl
  | pretend body more _ ih =>
      funext link
      simp only [andThen, perform, ih]
      simp only [bind, EStateM.bind, outcome]
      cases Link.pretend body.perform link <;> rfl

theorem perform_transaction (body : Routine α) :
    (transaction body).perform (σ := σ) = Link.transaction body.perform := by
  funext link
  simp only [transaction, perform, Operation.perform, Link.transaction]
  simp only [bind, EStateM.bind, outcome]
  cases Link.begin link with
  | error error begun => rfl
  | ok value begun =>
      simp only [perform_andThen]
      simp only [bind, EStateM.bind, outcome]
      cases body.perform begun with
      | error error final => rfl
      | ok value final =>
          simp only [perform, Operation.perform]
          simp only [bind, EStateM.bind, outcome]
          cases Link.commit final with
          | ok value after => rfl
          | error error after => rfl

/-- Requests and scoped transactions, and with them the programs of builders, are routines. -/
theorem perform_ofWork (work : Work α) : (ofWork work).perform (σ := σ) = work.perform := by
  induction work with
  | done value => rfl
  | fail error => rfl
  | ask request next ih =>
      funext link
      simp only [ofWork, perform, Operation.perform, Work.perform, ih]
  | scope body next bodyIh ih =>
      funext link
      simp only [ofWork, perform_andThen, perform_transaction, Work.perform, bodyIh, ih]

/-- The calls of a run, those that are only pretended among them. -/
def acts : {α : Type} → Routine α → Link σ → List (Act σ)
  | _, done _, _ => []
  | _, fail _, _ => []
  | _, look next, link => (next link.connection).acts link
  | _, call operation next, link =>
      let (reply, after) := ending operation.perform link
      ⟨operation, link⟩ :: (next reply).acts after
  | _, pretend body next, link =>
      let (captured, after) := ending (Link.pretend body.perform) link
      body.acts link.pretended ++ (next captured).acts after

/-- The statements of a run, but those of what it pretends. -/
def issued : {α : Type} → Routine α → Link σ → List Statement
  | _, done _, _ => []
  | _, fail _, _ => []
  | _, look next, link => (next link.connection).issued link
  | _, call operation next, link =>
      let (reply, after) := ending operation.perform link
      operation.statements ++ (next reply).issued after
  | _, pretend body next, link =>
      let (captured, after) := ending (Link.pretend body.perform) link
      (next captured).issued after

end Performing

/-! What a run does, by what its calls do -/

/-- What switching leaves as it is, and what goes from one point to the next. -/
structure Passes (R : Link σ → Link σ → Prop) : Prop where
  refl : ∀ link, R link link
  trans : ∀ {before middle after}, R before middle → R middle after → R before after
  switched : ∀ link pretending logging log, R link (link.switched pretending logging log)

variable [Database σ] {R : Link σ → Link σ → Prop}

variable {before after : Link σ}
  {routine : Routine α} {result : Except Error α}

theorem acts_call {operation : Operation} {next : Except Error operation.Answer → Routine α}
    {reply : Except Error operation.Answer} (ended : Ends operation.perform before reply after) :
    (call operation next).acts before = ⟨operation, before⟩ :: (next reply).acts after := by
  simp only [acts, ended.ending_eq]

theorem issued_call {operation : Operation} {next : Except Error operation.Answer → Routine α}
    {reply : Except Error operation.Answer} (ended : Ends operation.perform before reply after) :
    (call operation next).issued before = operation.statements ++ (next reply).issued after := by
  simp only [issued, ended.ending_eq]

theorem acts_pretend {body : Routine β} {next : Except Error (List Logged) → Routine α}
    {captured : Except Error (List Logged)}
    (ended : Ends (Link.pretend body.perform) before captured after) :
    (pretend body next).acts before =
      body.acts before.pretended ++ (next captured).acts after := by
  simp only [acts, ended.ending_eq]

theorem issued_pretend {body : Routine β} {next : Except Error (List Logged) → Routine α}
    {captured : Except Error (List Logged)}
    (ended : Ends (Link.pretend body.perform) before captured after) :
    (pretend body next).issued before = (next captured).issued after := by
  simp only [issued, ended.ending_eq]

/-- What all calls of a run carry on, the run carries on. -/
theorem carries (passes : Passes R)
    (each : ∀ act ∈ routine.acts before, act.Carries R)
    (ended : Ends routine.perform before result after) : R before after := by
  induction routine generalizing before after with
  | done value =>
      obtain ⟨-, rfl⟩ := ended.of_pure
      exact passes.refl _
  | fail error =>
      obtain ⟨-, rfl⟩ := ended.of_throw
      exact passes.refl _
  | look next ih => exact ih before.connection each (Link.of_current ended)
  | call operation next ih =>
      obtain ⟨reply, middle, called, rest⟩ := ended.of_outcome_bind
      rw [acts_call called] at each
      have first : R before middle := each ⟨operation, before⟩ (by simp) _ _ called
      have second : R middle after :=
        ih reply (fun act member => each act (List.mem_cons_of_mem _ member)) rest
      exact passes.trans first second
  | pretend body next bodyIh ih =>
      obtain ⟨captured, middle, ending, rest⟩ := ended.of_outcome_bind
      rw [acts_pretend ending] at each
      obtain ⟨inner, final, performed, -, rfl⟩ := Link.of_pretend ending
      have inside : R before.pretended final :=
        bodyIh (fun act member => each act (List.mem_append_left _ member)) performed
      -- The switches are turned before the inner run and back behind it.
      have restored : R before (final.restored before) :=
        passes.trans (passes.trans (passes.switched _ _ _ _) inside) (passes.switched _ _ _ _)
      have second : R (final.restored before) after :=
        ih captured (fun act member => each act (List.mem_append_right _ member)) rest
      exact passes.trans restored second

/-- A run goes to each of its calls, and on from there. -/
theorem carries_through (passes : Passes R)
    (each : ∀ act ∈ routine.acts before, act.Carries R)
    (ended : Ends routine.perform before result after) {act : Act σ}
    (made : act ∈ routine.acts before) :
    R before act.before ∧ ∃ reply reached,
      Ends act.operation.perform act.before reply reached ∧ R reached after := by
  induction routine generalizing before after with
  | done value => cases made
  | fail error => cases made
  | look next ih => exact ih before.connection each (Link.of_current ended) made
  | call operation next ih =>
      obtain ⟨reply, middle, called, rest⟩ := ended.of_outcome_bind
      rw [acts_call called] at each made
      have eachLater : ∀ act ∈ (next reply).acts middle, act.Carries R :=
        fun act member => each act (List.mem_cons_of_mem _ member)
      rcases List.mem_cons.mp made with rfl | later
      · exact ⟨passes.refl _, reply, middle, called, carries passes eachLater rest⟩
      · have first : R before middle := each ⟨operation, before⟩ (by simp) _ _ called
        obtain ⟨reached, onward⟩ := ih reply eachLater rest later
        exact ⟨passes.trans first reached, onward⟩
  | pretend body next bodyIh ih =>
      obtain ⟨captured, middle, ending, rest⟩ := ended.of_outcome_bind
      rw [acts_pretend ending] at each made
      obtain ⟨inner, final, performed, -, rfl⟩ := Link.of_pretend ending
      have eachInside : ∀ act ∈ body.acts before.pretended, act.Carries R :=
        fun act member => each act (List.mem_append_left _ member)
      have eachLater : ∀ act ∈ (next captured).acts (final.restored before), act.Carries R :=
        fun act member => each act (List.mem_append_right _ member)
      have entered : R before before.pretended := passes.switched _ _ _ _
      have left : R final (final.restored before) := passes.switched _ _ _ _
      have second : R (final.restored before) after := carries passes eachLater rest
      rcases List.mem_append.mp made with inside | later
      · obtain ⟨reached, reply, behind, called, onward⟩ := bodyIh eachInside performed inside
        exact ⟨passes.trans entered reached, reply, behind, called,
          passes.trans onward (passes.trans left second)⟩
      · have inside : R before.pretended final := carries passes eachInside performed
        obtain ⟨reached, onward⟩ := ih captured eachLater rest later
        exact ⟨passes.trans (passes.trans (passes.trans entered inside) left) reached, onward⟩

end Routine

end SqlToolkit
