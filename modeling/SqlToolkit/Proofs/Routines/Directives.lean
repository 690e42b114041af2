import SqlToolkit.Proofs.Routines.Ownership
/-!
What is asked of the connections of all names: whichever way it is asked, it opens the connection of
one name if need be, makes calls on it, and leaves the others as they are.
-/

namespace SqlToolkit

variable {σ α : Type}

/-- What follows an action without a state of its own ends where the action does. -/
theorem of_ignored {ε β : Type} {action : EStateM ε σ α} {next : α → EStateM ε σ β}
    {before after : σ} {result : Except ε β} (ended : Ends (action >>= next) before result after)
    (rests : ∀ value {middle reply last}, Ends (next value) middle reply last → last = middle) :
    ∃ reply, Ends action before reply after := by
  rcases ended.of_bind with ⟨error, failed, -⟩ | ⟨value, middle, performed, rest⟩
  · exact ⟨_, failed⟩
  · obtain rfl := rests value rest
    exact ⟨_, performed⟩

namespace Routine

def once (operation : Operation) : Routine operation.Answer :=
  call operation fun
    | .ok value => done value
    | .error error => fail error

variable [Database σ] {operation : Operation}

theorem perform_once {before after : Link σ} {reply : Except Error operation.Answer}
    (ended : Ends operation.perform before reply after) :
    Ends (once operation).perform before reply after := by
  unfold Ends once at *
  simp only [perform, bind, EStateM.bind, outcome]
  cases reply <;> simp only [ended] <;> rfl

theorem acts_once (link : Link σ) : (once operation).acts link = [⟨operation, link⟩] := by
  obtain ⟨reply, after, ended⟩ := Ends.exists operation.perform link
  rw [once, acts_call ended]
  cases reply <;> rfl

end Routine

/-- What is asked of the connections of a configuration. -/
inductive Directive : Type 1 where
  | connection (name : Option String)
  | reconnect (name : Option String)
  | disconnect (name : Option String)
  | purge (name : Option String)
  | setDefault (name : String)
  | on (name : Option String) (routine : Routine Unit)

namespace Directive

section Performing

variable [Database σ]

def perform : Directive → Managing σ Unit
  | connection name => do let _ ← Connections.connection name
  | reconnect name => do let _ ← Connections.reconnect name
  | disconnect name => Connections.disconnect name
  | purge name => Connections.purge name
  | setDefault name => Connections.setDefault name
  | on name routine => Connections.use name routine.perform

def target (state : Connections σ) : Directive → Option String
  | connection name | reconnect name | disconnect name | purge name | on name _ =>
      some (state.resolve name)
  | setDefault _ => none

/-- The calls that are made on the connection that is meant. -/
def acts (state : Connections σ) : Directive → List (Act σ)
  | connection _ | setDefault _ => []
  | reconnect name => (state.find? (state.resolve name)).toList.map fun opened =>
      ⟨.reconnect, state.link opened⟩
  | disconnect name | purge name => (state.find? (state.resolve name)).toList.map fun opened =>
      ⟨.disconnect, state.link opened⟩
  | on name routine => match ending (Connections.connection name) state with
      | (.ok opened, opening) => routine.acts (opening.link opened)
      | (.error _, _) => []

end Performing

end Directive

namespace Connections

variable {before middle after : Connections σ} {name : String}

/-- A connection is open before something is done on it, or is opened for it. -/
inductive Opens [Database σ] (name : String) (before : Connections σ) : Connections σ → Prop where
  | kept : Opens name before before
  | opened {result : Except Error Opened} {after : Connections σ}
      (absent : before.find? name = none) (ended : Ends (openNamed name) before result after) :
      Opens name before after

/-- Some calls are made on the connection of a name, if it is open. -/
inductive Performs [Database σ] (name : String) (before : Connections σ) :
    List (Act σ) → Connections σ → Prop where
  | nothing : Performs name before [] before
  | ran {α : Type} {opened : Opened} {routine : Routine α} {result : Except Error α} {final : Link σ}
      (found : before.find? name = some opened)
      (ended : Ends routine.perform (before.link opened) result final) :
      Performs name before (routine.acts (before.link opened))
        { before.update name final.connection with database := final.database }
  | forgot {acts : List (Act σ)} {after : Connections σ} (performs : Performs name before acts after)
      (closes : ∀ opened, before.find? name = some opened →
        ⟨.disconnect, before.link opened⟩ ∈ acts) :
      Performs name before acts (after.forget name)

section Performing

variable [Database σ]

theorem Performs.once {opened : Opened} {operation : Operation}
    {reply : Except Error operation.Answer} {final : Link σ}
    (found : before.find? name = some opened)
    (ended : Ends operation.perform (before.link opened) reply final) :
    Performs name before [⟨operation, before.link opened⟩]
      { before.update name final.connection with database := final.database } := by
  rw [← Routine.acts_once]
  exact .ran found (Routine.perform_once ended)

theorem Performs.default {acts : List (Act σ)} (performs : Performs name before acts after) :
    after.default = before.default := by
  induction performs with
  | nothing => rfl
  | ran found ended => rfl
  | forgot performs closes ih => exact ih

theorem opened_openNamed {opened : Opened} (absent : before.find? name = none)
    (ended : Ends (openNamed name) before (.ok opened) after) :
    after.find? name = some opened ∧ after.default = before.default := by
  rcases of_openNamed ended with ⟨_, -, failed, -⟩ | ⟨_, _, _, -, -, ⟨_, -, failed, -⟩ |
    ⟨connection, -, same, rfl⟩⟩
  · cases failed
  · cases failed
  · cases same
    exact ⟨(find?_keep absent).trans (if_pos rfl), rfl⟩

/-- What is asked under a name opens its connection if need be, and makes its calls there. -/
def Asks (name : String) (acts : List (Act σ)) (before after : Connections σ) : Prop :=
  ∃ opening, Opens name before opening ∧ Performs name opening acts after

variable {asked : Option String}

theorem asks_connection {result : Except Error Opened}
    (ended : Ends (connection asked) before result after) :
    Asks (before.resolve asked) [] before after := by
  rcases of_connection ended with ⟨_, -, -, rfl⟩ | ⟨absent, opened⟩
  · exact ⟨_, .kept, .nothing⟩
  · exact ⟨_, .opened absent opened, .nothing⟩

theorem asks_reconnect {result : Except Error Opened}
    (ended : Ends (reconnect asked) before result after) :
    Asks (before.resolve asked) ((Directive.reconnect asked).acts before) before after := by
  unfold reconnect at ended
  have chosen := ended.of_get
  dsimp only at chosen
  split at chosen
  · rename_i opened found
    simp only [Directive.acts, found]
    obtain ⟨reply, ran⟩ := of_ignored chosen fun _ => And.right ∘ Ends.of_pure
    obtain ⟨final, performed, rfl⟩ := of_runOn ran
    have reads : ∀ {middle reply last}, Ends (Link.current (σ := σ)) middle reply last →
        last = middle := And.right ∘ Ends.of_pure
    obtain ⟨reply, reopened⟩ := of_ignored performed fun _ => reads
    have once : Ends Operation.reconnect.perform (before.link opened) reply final := reopened
    exact ⟨_, .kept, .once found once⟩
  · rename_i absent
    simp only [Directive.acts, absent]
    exact ⟨_, .opened absent chosen, .nothing⟩

theorem performs_disconnect {result : Except Error Unit}
    (ended : Ends (disconnect asked) before result after) :
    Performs (before.resolve asked) before ((Directive.disconnect asked).acts before) after := by
  unfold disconnect at ended
  have chosen := ended.of_get
  dsimp only at chosen
  split at chosen
  · rename_i opened found
    simp only [Directive.acts, found]
    obtain ⟨final, closed, rfl⟩ := of_runOn chosen
    have once : Ends Operation.disconnect.perform (before.link opened) result final := closed
    exact .once found once
  · rename_i absent
    obtain ⟨-, rfl⟩ := chosen.of_pure
    simp only [Directive.acts, absent]
    exact .nothing

theorem performs_purge {result : Except Error Unit}
    (ended : Ends (purge asked) before result after) :
    Performs (before.resolve asked) before ((Directive.purge asked).acts before) after := by
  rcases ended.of_bind with ⟨error, failed, -⟩ | ⟨_, middle, closed, rest⟩
  · exact performs_disconnect failed
  · have performs := performs_disconnect closed
    have resolved : middle.resolve asked = before.resolve asked := by
      rw [resolve, performs.default, resolve]
    obtain rfl : after = middle.forget (middle.resolve asked) := by
      cases result <;> cases rest
      rfl
    rw [resolved]
    refine .forgot performs fun opened found => ?_
    simp only [Directive.acts, found, Option.toList_some, List.map_cons, List.map_nil,
      List.mem_singleton]

/-- What is used and kept is neither opened nor taken out: the action is run on it. -/
theorem of_use_found {asked : Option String} {action : Action σ α} {before after : Connections σ}
    {opened : Opened} {result : Except Error α}
    (found : before.find? (before.resolve asked) = some opened)
    (ended : Ends (use asked action) before result after) :
    ∃ final, Ends action (before.link opened) result final ∧
      after = { before.update (before.resolve asked) final.connection with
        database := final.database } := by
  rcases ended.of_bind with ⟨_, failed, -⟩ | ⟨other, opening, succeeded, rest⟩
  · rcases of_connection failed with ⟨_, -, same, -⟩ | ⟨absent, -⟩
    · cases same
    · cases absent.symm.trans found
  · rcases of_connection succeeded with ⟨_, kept, same, rfl⟩ | ⟨absent, -⟩
    · cases same
      cases kept.symm.trans found
      have run : Ends (runOn (opening.resolve asked) opened.connection action) opening result
        after := rest
      obtain ⟨final, performed, rfl⟩ := of_runOn run
      exact ⟨final, performed, rfl⟩
    · cases absent.symm.trans found

theorem asks_use {routine : Routine Unit} {result : Except Error Unit}
    (ended : Ends (use asked routine.perform) before result after) :
    Asks (before.resolve asked) ((Directive.on asked routine).acts before) before after := by
  simp only [Directive.acts]
  rcases ended.of_bind with ⟨error, failed, -⟩ | ⟨opened, opening, succeeded, rest⟩
  · rw [failed.ending_eq]
    exact asks_connection failed
  · rw [succeeded.ending_eq]
    -- Whether it was opened for this or not, the connection is kept under the name now.
    obtain ⟨opens, found, resolved⟩ : Opens (before.resolve asked) before opening ∧
        opening.find? (before.resolve asked) = some opened ∧
        opening.resolve asked = before.resolve asked := by
      rcases of_connection succeeded with ⟨_, found, same, rfl⟩ | ⟨absent, new⟩
      · cases same
        exact ⟨.kept, found, rfl⟩
      · obtain ⟨found, same⟩ := opened_openNamed absent new
        exact ⟨.opened absent new, found, by rw [resolve, same, resolve]⟩
    have run : Ends (runOn (opening.resolve asked) opened.connection routine.perform) opening
        result after := rest
    rw [resolved] at run
    obtain ⟨final, performed, rfl⟩ := of_runOn run
    exact ⟨opening, opens, .ran found performed⟩

end Performing

end Connections

open Connections in
theorem Directive.asks [Database σ] {directive : Directive} {before after : Connections σ}
    {name : String} {result : Except Error Unit} (meant : directive.target before = some name)
    (ended : Ends directive.perform before result after) :
    Asks name (directive.acts before) before after := by
  cases directive with
  | connection asked =>
      cases meant
      obtain ⟨reply, opening⟩ := of_ignored ended fun _ => And.right ∘ Ends.of_pure
      exact asks_connection opening
  | reconnect asked =>
      cases meant
      obtain ⟨reply, opening⟩ := of_ignored ended fun _ => And.right ∘ Ends.of_pure
      exact asks_reconnect opening
  | disconnect asked =>
      cases meant
      exact ⟨_, .kept, performs_disconnect ended⟩
  | purge asked =>
      cases meant
      exact ⟨_, .kept, performs_purge ended⟩
  | setDefault asked => cases meant
  | on asked routine =>
      cases meant
      exact asks_use ended

/-- What means no connection sets the default. -/
theorem Directive.of_untargeted [Database σ] {directive : Directive} {before after : Connections σ}
    {result : Except Error Unit} (untargeted : directive.target before = none)
    (ended : Ends directive.perform before result after) :
    ∃ name, directive = .setDefault name ∧ after = { before with default := name } := by
  cases directive with
  | setDefault name => exact ⟨name, rfl, Connections.of_setDefault ended⟩
  | connection _ | reconnect _ | disconnect _ | purge _ | on _ _ => cases untargeted

variable [Issuing σ]

/-- Sessions that the caller hands over are open, and held under no other name. -/
def Directive.Lawful (directive : Directive) (state : Connections σ) : Prop :=
  ∀ act ∈ directive.acts state, ∀ session ∈ act.operation.handed,
    Issuing.Issued act.before.database session ∧
      ¬ state.HeldBeside (directive.target state) session

theorem Directive.lawful_of_plain {directive : Directive} {state : Connections σ}
    (plain : ∀ act ∈ directive.acts state, act.operation.handed = []) : directive.Lawful state := by
  intro act made session handed
  rw [plain act made] at handed
  cases handed

namespace Connections

variable {before after : Connections σ} {name : String}

theorem Opens.minds (owned : before.Owned) (opens : Opens name before after) :
    Minds (some name) before after := by
  cases opens with
  | kept => exact .refl owned
  | opened absent ended => exact minds_openNamed owned absent ended

theorem Performs.minds {acts : List (Act σ)} (owned : before.Owned)
    (handed : ∀ act ∈ acts, ∀ session ∈ act.operation.handed,
      Issuing.Issued act.before.database session ∧ ¬ before.HeldBeside (some name) session)
    (performs : Performs name before acts after) : Minds (some name) before after := by
  induction performs with
  | nothing => exact .refl owned
  | ran found ended =>
      refine minds_update owned found (Routine.carries Link.Spares.passes ?_ ended)
      intro act made reply reached called
      exact Link.spares_perform (handed act made) called
  | forgot performs closes ih => exact (ih handed).forget

end Connections

open Connections in
/-- What is asked under one name leaves all others as they are. -/
theorem Directive.minds {directive : Directive} {before after : Connections σ}
    {result : Except Error Unit} (owned : before.Owned) (lawful : directive.Lawful before)
    (ended : Ends directive.perform before result after) :
    Minds (directive.target before) before after := by
  unfold Lawful at lawful
  cases meant : directive.target before with
  | none =>
      obtain ⟨name, rfl, rfl⟩ := of_untargeted meant ended
      exact ⟨⟨owned.issued, owned.alone⟩, fun _ _ => rfl, .of_eq rfl⟩
  | some name =>
      rw [meant] at lawful
      obtain ⟨opening, opens, performs⟩ := asks meant ended
      have opened := opens.minds owned
      refine opened.trans (performs.minds opened.owned fun act made session handed => ?_)
      rw [opened.heldBeside_iff]
      exact lawful act made session handed

namespace Connections

/-- The states that are reached by what is asked of the connections, while sessions are opened
elsewhere too. -/
inductive Reached : Connections σ → Prop where
  | start (config : DatabaseConfig) (database : σ) : Reached (make config database)
  | asked {directive : Directive} {before after : Connections σ} {result : Except Error Unit}
      (reached : Reached before) (lawful : directive.Lawful before)
      (ended : Ends directive.perform before result after) : Reached after
  | beside {before : Connections σ} {database : σ} (reached : Reached before)
      (retains : Retains Issuing.Issued before.database database) :
      Reached { before with database }

theorem Reached.owned {state : Connections σ} (reached : Reached state) : state.Owned := by
  induction reached with
  | start config database =>
      constructor
      · rintro name session ⟨opened, found, -⟩
        cases found
      · rintro name other session ⟨opened, found, -⟩
        cases found
  | asked reached lawful ended owned => exact (Directive.minds owned lawful ended).owned
  | beside reached retains owned =>
      exact ⟨fun held => retains _ (owned.issued held), owned.alone⟩

end Connections

end SqlToolkit
