import Mathlib.Data.List.Nodup
import SqlToolkit.Proofs.Renewal.QueryLog
import SqlToolkit.Proofs.Routines.Directives
/-!
What is kept under a name: a connection that was opened once under that name and with its
configuration. Whatever is done on it, it stays the same connection.
-/

namespace SqlToolkit

variable {σ α : Type}

/-! One connection -/

/-- The connection opens its sessions anew when they are lost, and does not pretend. -/
structure Connection.Tended (name : String) (config : ConnectionConfig) (connection : Connection) :
    Prop where
  name : connection.name = name
  config : connection.config = config
  reconnects : connection.reconnects = true
  talking : connection.pretending = false

theorem Connection.tended_of_connect [Database σ] {name : String} {config : ConnectionConfig}
    {before after : σ} {connection : Connection}
    (ended : Ends (Connection.connect name config) before (.ok connection) after) :
    connection.Tended name config := by
  obtain ⟨_, -, ⟨_, failed⟩ | ⟨_, _, _, _, -, opened⟩⟩ := Connection.of_connect ended
  · cases failed
  · cases opened
    exact ⟨rfl, rfl, rfl, rfl⟩

namespace Link

variable {before middle after : Link σ}

/-- It is the same connection, with the same way to new sessions. -/
structure Alike (before after : Link σ) : Prop where
  name : after.connection.name = before.connection.name
  config : after.connection.config = before.connection.config
  reconnects : after.connection.reconnects = before.connection.reconnects
  pretending : after.connection.pretending = before.connection.pretending

namespace Alike

theorem refl (link : Link σ) : Alike link link :=
  ⟨rfl, rfl, rfl, rfl⟩

theorem trans (first : Alike before middle) (second : Alike middle after) : Alike before after :=
  ⟨second.name.trans first.name, second.config.trans first.config,
    second.reconnects.trans first.reconnects, second.pretending.trans first.pretending⟩

theorem tended {name : String} {config : ConnectionConfig} (alike : Alike before after)
    (tended : before.connection.Tended name config) : after.connection.Tended name config :=
  ⟨alike.name.trans tended.name, alike.config.trans tended.config,
    alike.reconnects.trans tended.reconnects, alike.pretending.trans tended.talking⟩

end Alike

theorem Rewired.alike (rewired : Rewired before after) : Alike before after := by
  obtain ⟨write, read, level, same⟩ := rewired
  constructor <;> rw [same]

theorem alike_noted {request : Request} (result : Except Error request.Answer) :
    Alike before (before.noted request result) := by
  unfold noted
  split <;> exact ⟨rfl, rfl, rfl, rfl⟩

variable [Recording σ]

theorem alike_run {request : Request} {result : Except Error request.Answer}
    (ended : Ends (run request) before result after) : Alike before after := by
  by_cases pretending : before.connection.pretending = true
  · obtain ⟨-, rfl⟩ := of_run_pretending pretending ended
    exact ⟨rfl, rfl, rfl, rfl⟩
  · obtain ⟨sent, served, rfl, -, serves⟩ := serves_run (by simpa using pretending) ended
    exact serves.rewired.alike.trans (alike_noted result)

theorem alike_perform {operation : Operation} {reply : Except Error operation.Answer}
    (ended : Ends operation.perform before reply after) : Alike before after := by
  cases operation with
  | ask request => exact alike_run ended
  | setLogging on =>
      obtain rfl := Operation.of_setLogging ended
      exact ⟨rfl, rfl, rfl, rfl⟩
  | flush =>
      obtain rfl := Operation.of_flush ended
      exact ⟨rfl, rfl, rfl, rfl⟩
  | begin | commit | rollback | setWrite _ | setRead _ | reconnect | disconnect =>
      exact (rewired_perform rfl (by trivial) ended).alike

end Link

/-- Whoever holds the connection leaves it the connection that it is. -/
theorem Routine.alike [Recording σ] {routine : Routine α} {before after : Link σ}
    {result : Except Error α} (ended : Ends routine.perform before result after) :
    Link.Alike before after := by
  induction routine generalizing before after with
  | done value =>
      obtain ⟨-, rfl⟩ := ended.of_pure
      exact .refl _
  | fail error =>
      obtain ⟨-, rfl⟩ := ended.of_throw
      exact .refl _
  | look next ih => exact ih before.connection (Link.of_current ended)
  | call operation next ih =>
      obtain ⟨reply, middle, called, rest⟩ := ended.of_outcome_bind
      exact (Link.alike_perform called).trans (ih reply rest)
  | pretend body next bodyIh ih =>
      obtain ⟨captured, middle, pretended, rest⟩ := ended.of_outcome_bind
      obtain ⟨inner, final, performed, -, rfl⟩ := Link.of_pretend pretended
      -- Pretending is over behind the body, whatever it was in between.
      have inside := bodyIh performed
      have restored : Link.Alike before (final.restored before) :=
        ⟨inside.name, inside.config, inside.reconnects, rfl⟩
      exact restored.trans (ih captured rest)

/-! Connections by name -/

namespace Connections

variable {before after state : Connections σ} {name : String}

/-- The names under which connections are kept, each with the place at which its connection was
opened. -/
def objects (state : Connections σ) : List (String × Nat) :=
  state.opened.map fun entry => (entry.1, entry.2.serial)

theorem objects_keep {opened : Opened} :
    (state.keep name opened).objects = state.objects ++ [(name, opened.serial)] := by
  simp [objects, keep]

theorem objects_update {connection : Connection} :
    (state.update name connection).objects = state.objects := by
  simp only [objects, update, List.map_map]
  refine List.map_congr_left fun entry _ => ?_
  by_cases same : entry.1 = name <;> simp [same]

theorem objects_forget :
    (state.forget name).objects = state.objects.filter fun object => object.1 ≠ name := by
  simp only [objects, forget, List.filter_map]
  rfl

theorem lookup_objects : state.objects.lookup name = (state.find? name).map (·.serial) := by
  simp only [objects, find?]
  induction state.opened with
  | nil => rfl
  | cons entry rest ih =>
      rw [List.map_cons, List.lookup_cons, List.lookup_cons, ih]
      cases name == entry.1 <;> rfl

theorem mem_of_find? {opened : Opened} (found : state.find? name = some opened) :
    (name, opened) ∈ state.opened := by
  obtain ⟨front, rest, split, -⟩ := List.lookup_eq_some_iff.mp found
  rw [split]
  exact List.mem_append_right _ List.mem_cons_self

/-- At most one connection is kept under a name, no connection twice; and each was opened under its
name, which is configured, with that configuration. -/
structure Tidy (state : Connections σ) : Prop where
  names : (state.objects.map Prod.fst).Nodup
  serials : (state.objects.map Prod.snd).Nodup
  counted : ∀ object ∈ state.objects, object.2 < state.count
  tended : ∀ entry ∈ state.opened, ∃ config, state.config.connection entry.1 = .ok config ∧
    entry.2.connection.Tended entry.1 config

/-- The connection of a name is the one that is kept; without one a new one is opened and kept, but
for a name that is not configured and for a session that does not open. -/
inductive Provides [Database σ] (name : String) (before : Connections σ) :
    Except Error Opened → Connections σ → Prop
  | kept {opened : Opened} (found : before.find? name = some opened) :
      Provides name before (.ok opened) before
  | opened {config : ConnectionConfig} {connection : Connection} {database : σ}
      (absent : before.find? name = none)
      (configured : before.config.connection name = .ok config)
      (opening : Ends (Connection.connect name config) before.database (.ok connection) database) :
      Provides name before (.ok ⟨before.count, connection⟩)
        ({ before with database, count := before.count + 1 }.keep name ⟨before.count, connection⟩)
  | refused {config : ConnectionConfig} {error : Error} {database : σ}
      (absent : before.find? name = none)
      (configured : before.config.connection name = .ok config)
      (opening : Ends (Connection.connect name config) before.database (.error error) database) :
      Provides name before (.error error) { before with database }
  | unknown {error : Error} (absent : before.find? name = none)
      (missing : before.config.connection name = .error error) :
      Provides name before (.error error) before

section Performing

variable [Database σ]

theorem provides_openNamed {result : Except Error Opened} (absent : before.find? name = none)
    (ended : Ends (openNamed name) before result after) : Provides name before result after := by
  rcases of_openNamed ended with
    ⟨error, missing, rfl, rfl⟩ | ⟨config, reply, database, configured, opening, opened⟩
  · exact .unknown absent missing
  · rcases opened with ⟨error, rfl, rfl, rfl⟩ | ⟨connection, rfl, rfl, rfl⟩
    · exact .refused absent configured opening
    · exact .opened absent configured opening

theorem provides_connection {asked : Option String} {result : Except Error Opened}
    (ended : Ends (connection asked) before result after) :
    Provides (before.resolve asked) before result after := by
  rcases of_connection ended with ⟨opened, found, rfl, rfl⟩ | ⟨absent, opened⟩
  · exact .kept found
  · exact provides_openNamed absent opened

end Performing

namespace Tidy

theorem start (config : DatabaseConfig) (database : σ) : (make config database).Tidy where
  names := List.nodup_nil
  serials := List.nodup_nil
  counted := by
    rintro object ⟨⟩
  tended := by
    rintro entry ⟨⟩

theorem beside (tidy : before.Tidy) (database : σ) : { before with database }.Tidy :=
  ⟨tidy.names, tidy.serials, tidy.counted, tidy.tended⟩

/-- One connection may be another one of the same name and configuration. -/
theorem update {connection : Connection} (tidy : before.Tidy)
    (tended : ∀ config, before.config.connection name = .ok config → connection.Tended name config) :
    (before.update name connection).Tidy := by
  refine ⟨?_, ?_, ?_, ?_⟩
  · rw [objects_update]
    exact tidy.names
  · rw [objects_update]
    exact tidy.serials
  · rw [objects_update]
    exact tidy.counted
  · intro entry member
    obtain ⟨⟨key, opened⟩, kept, rfl⟩ := List.mem_map.mp member
    obtain ⟨config, configured, belongs⟩ := tidy.tended _ kept
    refine ⟨config, ?_⟩
    by_cases same : key = name
    · subst same
      simp only [if_pos]
      exact ⟨configured, tended config configured⟩
    · simp only [if_neg same]
      exact ⟨configured, belongs⟩

theorem forget (tidy : before.Tidy) : (before.forget name).Tidy := by
  have fewer : (before.forget name).objects.Sublist before.objects := by
    rw [objects_forget]
    exact List.filter_sublist
  refine ⟨tidy.names.sublist (fewer.map _), tidy.serials.sublist (fewer.map _), ?_, ?_⟩
  · exact fun object member => tidy.counted object (fewer.subset member)
  · exact fun entry member => tidy.tended entry (List.mem_filter.mp member).1

theorem keep {connection : Connection} {config : ConnectionConfig} (tidy : before.Tidy)
    (absent : before.find? name = none) (configured : before.config.connection name = .ok config)
    (tended : connection.Tended name config) (database : σ) :
    ({ before with database, count := before.count + 1 }.keep name
      ⟨before.count, connection⟩).Tidy := by
  have objects : ({ before with database, count := before.count + 1 }.keep name
      ⟨before.count, connection⟩).objects = before.objects ++ [(name, before.count)] :=
    objects_keep
  refine ⟨?_, ?_, ?_, ?_⟩
  · have unused : name ∉ before.objects.map Prod.fst := by
      intro member
      obtain ⟨⟨key, serial⟩, held, rfl⟩ := List.mem_map.mp member
      obtain ⟨⟨other, opened⟩, kept, same⟩ := List.mem_map.mp held
      cases same
      have differs := List.lookup_eq_none_iff.mp absent _ kept
      simp at differs
    rw [objects, List.map_append]
    simpa using List.Nodup.concat unused tidy.names
  · have unused : before.count ∉ before.objects.map Prod.snd := by
      intro member
      obtain ⟨object, held, same⟩ := List.mem_map.mp member
      have earlier := tidy.counted object held
      omega
    rw [objects, List.map_append]
    simpa using List.Nodup.concat unused tidy.serials
  · intro object member
    rw [objects] at member
    change object.2 < before.count + 1
    rcases List.mem_append.mp member with held | added
    · have earlier := tidy.counted object held
      omega
    · rw [List.mem_singleton.mp added]
      exact Nat.lt_succ_self _
  · intro entry member
    rcases List.mem_append.mp member with held | added
    · exact tidy.tended entry held
    · rw [List.mem_singleton.mp added]
      exact ⟨config, configured, tended⟩

end Tidy

section Performing

variable [Database σ]

theorem Provides.tidy {result : Except Error Opened} (provides : Provides name before result after)
    (tidy : before.Tidy) : after.Tidy := by
  cases provides with
  | kept found => exact tidy
  | opened absent configured opening =>
      exact tidy.keep absent configured (Connection.tended_of_connect opening) _
  | refused absent configured opening => exact tidy.beside _
  | unknown absent missing => exact tidy

theorem Opens.tidy (opens : Opens name before after) (tidy : before.Tidy) : after.Tidy := by
  cases opens with
  | kept => exact tidy
  | opened absent ended => exact (provides_openNamed absent ended).tidy tidy

end Performing

variable [Recording σ]

theorem Performs.tidy {acts : List (Act σ)} (performs : Performs name before acts after)
    (tidy : before.Tidy) : after.Tidy := by
  induction performs with
  | nothing => exact tidy
  | @ran α opened routine result final found ended =>
      refine (tidy.update fun config configured => ?_).beside final.database
      obtain ⟨other, configuredToo, tended⟩ := tidy.tended _ (mem_of_find? found)
      cases configured.symm.trans configuredToo
      exact (Routine.alike ended).tended tended
  | forgot performs closes ih => exact ih.forget

end Connections

open Connections in
theorem Directive.tidy [Recording σ] {directive : Directive} {before after : Connections σ}
    {result : Except Error Unit} (ended : Ends directive.perform before result after)
    (tidy : before.Tidy) : after.Tidy := by
  cases meant : directive.target before with
  | some name =>
      obtain ⟨opening, opens, performs⟩ := asks meant ended
      exact performs.tidy (opens.tidy tidy)
  | none =>
      obtain ⟨name, rfl, rfl⟩ := of_untargeted meant ended
      exact ⟨tidy.names, tidy.serials, tidy.counted, tidy.tended⟩

/-- The point behind a run, in which each call is made however the last one ended. -/
def Connections.following [Database σ] (directives : List Directive) (state : Connections σ) :
    Connections σ :=
  directives.foldl (fun state directive => (ending directive.perform state).2) state

theorem Connections.tidy_following [Recording σ] {state : Connections σ} (tidy : state.Tidy)
    (directives : List Directive) : (state.following directives).Tidy := by
  induction directives generalizing state with
  | nil => exact tidy
  | cons directive rest ih =>
      obtain ⟨result, after, ended⟩ := Ends.exists (directive.perform (σ := σ)) state
      rw [following, List.foldl_cons, ended.ending_eq]
      exact ih (directive.tidy ended tidy)

end SqlToolkit
