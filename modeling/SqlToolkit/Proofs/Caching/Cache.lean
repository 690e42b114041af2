import SqlToolkit.Proofs.Caching.Kept
/-!
The connections of a configuration as a table of objects under names. A connection comes into it when
it opens and goes out of it when its name is purged; nothing else changes which object stands under
which name.
-/

namespace SqlToolkit

variable {σ : Type}

namespace Directive

/-- The same call, with the name that no name stands for written out. -/
def named (default : String) : Directive → Directive
  | connection name => connection (some (name.getD default))
  | reconnect name => reconnect (some (name.getD default))
  | disconnect name => disconnect (some (name.getD default))
  | purge name => purge (some (name.getD default))
  | setDefault name => setDefault name
  | on name routine => on (some (name.getD default)) routine

/-- The default that the call sets. -/
def default? : Directive → Option String
  | setDefault name => some name
  | _ => none

/-- The name that the call purges. -/
def purged? (state : Connections σ) : Directive → Option String
  | purge name => some (state.resolve name)
  | _ => none

end Directive

namespace Connections

variable {before after state : Connections σ} {name : String}

/-- The objects under names, and a new one under the name if it has none and one opens. -/
def objectsWith (state : Connections σ) (name : String) (opens : Bool) : List (String × Nat) :=
  if (state.find? name).isNone && opens then state.objects ++ [(name, state.count)]
  else state.objects

theorem objectsWith_found {opened : Opened} (found : state.find? name = some opened) (opens : Bool) :
    state.objectsWith name opens = state.objects := by
  simp [objectsWith, found]

theorem lookup_objectsWith {serial : Nat} (kept : state.objects.lookup name = some serial)
    (other : String) (opens : Bool) : (state.objectsWith other opens).lookup name = some serial := by
  unfold objectsWith
  split
  · rw [List.lookup_append, kept]
    rfl
  · exact kept

section Performing

variable [Database σ]

theorem Provides.objects {result : Except Error Opened} (provides : Provides name before result after) :
    after.objects = before.objectsWith name result.isOk := by
  cases provides with
  | kept found => exact (objectsWith_found found _).symm
  | opened absent configured opening =>
      rw [objects_keep]
      simp [objectsWith, absent, Except.isOk, Except.toBool, Connections.objects]
  | refused absent configured opening => simp [objectsWith, Except.isOk, Except.toBool, Connections.objects]
  | unknown absent missing => simp [objectsWith, Except.isOk, Except.toBool]

end Performing

end Connections

/-- The objects under names behind a call: a connection that opens is added, one that is purged is
taken out, and all others stay. -/
def Directive.objects [Database σ] (state : Connections σ) (accepted : Bool) :
    Directive → List (String × Nat)
  | connection name | reconnect name => state.objectsWith (state.resolve name) accepted
  | disconnect _ | setDefault _ => state.objects
  | purge name => state.objects.filter fun object => object.1 ≠ state.resolve name
  | on name _ =>
      state.objectsWith (state.resolve name) (ending (Connections.connection name) state).1.isOk

namespace Connections

variable [Database σ] {before after state : Connections σ} {name : String}

/-! Configuration and default -/

/-- The configuration stays, and the default too. -/
structure Settled (before after : Connections σ) : Prop where
  config : after.config = before.config
  default : after.default = before.default

theorem Opens.settled (opens : Opens name before after) : Settled before after := by
  cases opens with
  | kept => exact ⟨rfl, rfl⟩
  | opened absent ended =>
      cases provides_openNamed absent ended <;> exact ⟨rfl, rfl⟩

theorem Performs.settled {acts : List (Act σ)} (performs : Performs name before acts after) :
    Settled before after := by
  induction performs with
  | nothing => exact ⟨rfl, rfl⟩
  | ran found ended => exact ⟨rfl, rfl⟩
  | forgot performs closes ih => exact ⟨ih.config, ih.default⟩

theorem connection_found {asked : Option String} {opened : Opened}
    (found : state.find? (state.resolve asked) = some opened) :
    Ends (connection asked) state (.ok opened) state := by
  obtain ⟨result, after, ended⟩ := Ends.exists (connection asked) state
  rcases of_connection ended with ⟨other, there, rfl, rfl⟩ | ⟨absent, -⟩
  · cases found.symm.trans there
    exact ended
  · cases found.symm.trans absent

theorem reconnect_absent {asked : Option String}
    (absent : state.find? (state.resolve asked) = none) :
    reconnect asked state = connection asked state := by
  have asks {α : Type} (next : Connections σ → Managing σ α) :
      (get >>= next) state = next state state := rfl
  unfold reconnect connection
  rw [asks, asks]
  simp only [absent]

theorem Provides.settled {result : Except Error Opened}
    (provides : Provides name before result after) : Settled before after := by
  cases provides <;> exact ⟨rfl, rfl⟩

end Connections

/-- What an action gives is let go. -/
theorem Ends.of_discarded {ε α : Type} {action : EStateM ε σ α} {before after : σ}
    {result : Except ε Unit}
    (ended : Ends (do let _ ← action : EStateM ε σ Unit) before result after) :
    ∃ reply, Ends action before reply after ∧ result.isOk = reply.isOk := by
  rcases ended.of_bind with ⟨error, failed, rfl⟩ | ⟨value, middle, performed, rest⟩
  · exact ⟨_, failed, rfl⟩
  · obtain ⟨rfl, rfl⟩ := rest.of_pure
    exact ⟨_, performed, rfl⟩

/-- What follows an action matters only where the action ends. -/
theorem Ends.bind_congr {ε α β : Type} {action : EStateM ε σ α} {next other : α → EStateM ε σ β}
    {before : σ}
    (same : ∀ value after, Ends action before (.ok value) after → next value after = other value after) :
    (action >>= next) before = (action >>= other) before := by
  simp only [bind, EStateM.bind]
  cases ended : action before with
  | ok value after => exact same value after ended
  | error error after => rfl

namespace Directive

variable {directive : Directive} {before after : Connections σ} {result : Except Error Unit}

open Connections

theorem settled_perform [Database σ] (ended : Ends directive.perform before result after) :
    after.config = before.config ∧ after.default = directive.default?.getD before.default := by
  cases meant : directive.target before with
  | some name =>
      obtain ⟨opening, opens, performs⟩ := asks meant ended
      have unset : directive.default? = none := by
        cases directive with
        | setDefault name => cases meant
        | connection _ | reconnect _ | disconnect _ | purge _ | on _ _ => rfl
      rw [unset, performs.settled.config, performs.settled.default, opens.settled.config,
        opens.settled.default]
      exact ⟨rfl, rfl⟩
  | none =>
      obtain ⟨name, rfl, rfl⟩ := of_untargeted meant ended
      exact ⟨rfl, rfl⟩

variable [Recording σ]

theorem objects_disconnect {asked : Option String}
    (ended : Ends (Connections.disconnect asked) before result after) :
    result = .ok () ∧ after.objects = before.objects := by
  unfold Connections.disconnect at ended
  have chosen := ended.of_get
  dsimp only at chosen
  split at chosen
  · obtain ⟨final, closed, rfl⟩ := of_runOn chosen
    exact ⟨Link.disconnect_succeeds closed, objects_update⟩
  · obtain ⟨rfl, rfl⟩ := chosen.of_pure
    exact ⟨rfl, rfl⟩

theorem objects_reconnect {asked : Option String} {reply : Except Error Opened}
    (ended : Ends (Connections.reconnect asked) before reply after) :
    after.objects = before.objectsWith (before.resolve asked) reply.isOk := by
  unfold Connections.reconnect at ended
  have chosen := ended.of_get
  dsimp only at chosen
  split at chosen
  · rename_i opened found
    obtain ⟨inner, ran⟩ := of_ignored chosen fun _ => And.right ∘ Ends.of_pure
    obtain ⟨final, performed, rfl⟩ := of_runOn ran
    rw [objectsWith_found found]
    exact objects_update
  · rename_i absent
    exact (provides_openNamed absent chosen).objects

theorem objects_perform (ended : Ends directive.perform before result after) :
    after.objects = directive.objects before result.isOk := by
  cases directive with
  | connection asked =>
      obtain ⟨reply, opening, same⟩ := ended.of_discarded
      rw [same]
      exact (provides_connection opening).objects
  | reconnect asked =>
      obtain ⟨reply, reopening, same⟩ := ended.of_discarded
      rw [same]
      exact objects_reconnect reopening
  | disconnect asked => exact (objects_disconnect ended).2
  | purge asked =>
      rcases ended.of_bind with ⟨error, failed, -⟩ | ⟨_, closed, closing, rest⟩
      · cases (objects_disconnect failed).1
      · have resolved : closed.resolve asked = before.resolve asked := by
          rw [resolve, (performs_disconnect closing).default, resolve]
        obtain rfl : after = closed.forget (closed.resolve asked) := by
          cases result <;> cases rest
          rfl
        rw [objects_forget, (objects_disconnect closing).2, resolved]
        rfl
  | setDefault name =>
      obtain rfl := of_setDefault ended
      rfl
  | on asked routine =>
      simp only [objects]
      rcases ended.of_bind with ⟨error, failed, -⟩ | ⟨opened, opening, succeeded, rest⟩
      · rw [failed.ending_eq]
        exact (provides_connection failed).objects
      · rw [succeeded.ending_eq]
        have run : Ends (runOn (opening.resolve asked) opened.connection routine.perform) opening
            result after := rest
        obtain ⟨final, performed, rfl⟩ := of_runOn run
        exact objects_update.trans (provides_connection succeeded).objects

/-- No name stands for the default. -/
theorem perform_named (directive : Directive) (state : Connections σ) :
    (directive.named state.default).perform state = directive.perform state := by
  cases directive with
  | connection _ | reconnect _ | disconnect _ | setDefault _ => rfl
  | purge asked =>
      have forgets : ∀ {closed}, Ends (Connections.disconnect asked) state (.ok ()) closed →
          closed.resolve (some (state.resolve asked)) = closed.resolve asked := by
        intro closed closing
        simp only [resolve, (performs_disconnect closing).default, Option.getD_some]
      change (Connections.disconnect asked >>= fun _ => modify fun closed =>
        closed.forget (closed.resolve (some (state.resolve asked)))) state = _
      refine Ends.bind_congr fun _ closed closing => ?_
      exact congrArg (fun name => EStateM.Result.ok () (closed.forget name)) (forgets closing)
  | on asked routine =>
      have runs : ∀ {opened opening}, Ends (Connections.connection asked) state (.ok opened) opening →
          opening.resolve (some (state.resolve asked)) = opening.resolve asked := by
        intro opened opening ended
        simp only [resolve, (provides_connection ended).settled.default, Option.getD_some]
      change (Connections.connection asked >>= fun opened => do
        runOn ((← get).resolve (some (state.resolve asked))) opened.connection routine.perform)
          state = _
      refine Ends.bind_congr fun opened opening ended => ?_
      exact congrArg (fun name => runOn name opened.connection routine.perform opening) (runs ended)

end Directive

namespace Connections

variable [Recording σ] {before after state : Connections σ} {name : String}

/-- An object stays under its name, whatever is asked, until the name is purged. -/
theorem lookup_perform {directive : Directive} {result : Except Error Unit} {serial : Nat}
    (kept : before.objects.lookup name = some serial)
    (spared : directive.purged? before ≠ some name)
    (ended : Ends directive.perform before result after) :
    after.objects.lookup name = some serial := by
  rw [Directive.objects_perform ended]
  cases directive with
  | connection asked => exact lookup_objectsWith kept _ _
  | reconnect asked => exact lookup_objectsWith kept _ _
  | on asked routine => exact lookup_objectsWith kept _ _
  | disconnect asked => exact kept
  | setDefault asked => exact kept
  | purge asked =>
      have other : name ≠ before.resolve asked := fun same => spared (congrArg some same.symm)
      change (before.objects.filter fun object => object.1 ≠ before.resolve asked).lookup name = _
      rw [← objects_forget, lookup_objects, find?_forget, if_neg other, ← lookup_objects]
      exact kept

/-- The names that are purged in a run. -/
def purged : List Directive → Connections σ → List String
  | [], _ => []
  | directive :: rest, state =>
      (directive.purged? state).toList ++ (ending directive.perform state).2.purged rest

theorem lookup_following {serial : Nat} {directives : List Directive}
    (kept : state.objects.lookup name = some serial) (spared : name ∉ state.purged directives) :
    (state.following directives).objects.lookup name = some serial := by
  induction directives generalizing state with
  | nil => exact kept
  | cons directive rest ih =>
      obtain ⟨result, after, ended⟩ := Ends.exists (directive.perform (σ := σ)) state
      rw [purged, ended.ending_eq, List.mem_append, not_or] at spared
      rw [following, List.foldl_cons, ended.ending_eq]
      refine ih (lookup_perform kept (fun same => spared.1 ?_) ended) spared.2
      rw [same]
      exact List.mem_singleton_self name

theorem settled_following (directives : List Directive) (state : Connections σ) :
    (state.following directives).config = state.config ∧
      (state.following directives).default =
        (directives.filterMap Directive.default?).getLast?.getD state.default := by
  induction directives generalizing state with
  | nil => exact ⟨rfl, rfl⟩
  | cons directive rest ih =>
      obtain ⟨result, after, ended⟩ := Ends.exists (directive.perform (σ := σ)) state
      obtain ⟨config, default⟩ := Directive.settled_perform ended
      obtain ⟨configToo, defaultToo⟩ := ih after
      rw [following, List.foldl_cons, ended.ending_eq]
      refine ⟨configToo.trans config, defaultToo.trans ?_⟩
      rw [default]
      cases set : directive.default? with
      | none => rw [List.filterMap_cons_none set]; rfl
      | some name =>
          rw [List.filterMap_cons_some set, List.getLast?_cons]
          rfl

/-- Wherever a run of calls has led: at most one connection is kept under a name, which is
configured and is the name of the connection; the default is the one that was set last, and no name
means it; the connection of a name is opened only if none is kept, and is kept if it opens; no call
but these changes which object is kept, until its name is purged. -/
theorem connections_stay_cached (config : DatabaseConfig) (database : σ)
    (directives : List Directive) :
    let state := (make config database).following directives
    state.Tidy ∧ state.config = config ∧
      state.default = (directives.filterMap Directive.default?).getLast?.getD config.default ∧
      (∀ asked, (∃ result after, Ends (connection asked) state result after ∧
          Provides (state.resolve asked) state result after) ∧
        (state.find? (state.resolve asked) = none →
          reconnect asked state = connection asked state)) ∧
      (∀ directive : Directive,
        (directive.named state.default).perform state = directive.perform state ∧
        ∃ result after, Ends directive.perform state result after ∧
          after.objects = directive.objects state result.isOk) ∧
      ∀ name opened later, state.find? name = some opened → name ∉ state.purged later →
        ∃ kept, (state.following later).find? name = some kept ∧ kept.serial = opened.serial ∧
          Ends (connection (some name)) (state.following later) (.ok kept)
            (state.following later) := by
  obtain ⟨same, default⟩ := settled_following directives (make config database)
  refine ⟨tidy_following (.start config database) directives, same, default, fun asked => ⟨?_, ?_⟩,
    fun directive => ⟨directive.perform_named _, ?_⟩, ?_⟩
  · obtain ⟨result, after, ended⟩ :=
      Ends.exists (connection asked) ((make config database).following directives)
    exact ⟨result, after, ended, provides_connection ended⟩
  · exact fun absent => reconnect_absent absent
  · obtain ⟨result, after, ended⟩ :=
      Ends.exists directive.perform ((make config database).following directives)
    exact ⟨result, after, ended, Directive.objects_perform ended⟩
  · intro name opened later found spared
    have object : ((make config database).following directives).objects.lookup name =
        some opened.serial := by
      rw [lookup_objects, found]
      rfl
    have stays := lookup_following object spared
    rw [lookup_objects] at stays
    obtain ⟨kept, there, serial⟩ := Option.map_eq_some_iff.mp stays
    exact ⟨kept, there, serial, connection_found there⟩

/-- Two names are configured, one of them with a replica. Its sessions do not open at first, and not
when they are to be opened anew. -/
def crowded : Connections Script :=
  .make ⟨"main", [("main", { driver := "sqlite", read := some (.many []) }),
    ("archive", { driver := "sqlite" })]⟩
    { connects := [none, some "down", none, none, none, some "down"] }

def settling : List Directive :=
  [.connection none, .connection none, .connection (some "absent"), .setDefault "archive",
    .connection none]

def disturbing : List Directive :=
  [.reconnect (some "main"), .disconnect (some "main"), .purge none]

theorem crowded_connections_stay :
    (crowded.following settling).Tidy ∧ (crowded.following settling).default = "archive" ∧
      ∃ kept, ((crowded.following settling).following disturbing).find? "main" = some kept ∧
        kept.serial = 0 ∧
        Ends (connection (some "main")) ((crowded.following settling).following disturbing)
          (.ok kept) ((crowded.following settling).following disturbing) := by
  obtain ⟨tidy, -, default, -, -, stays⟩ := connections_stay_cached (σ := Script)
    ⟨"main", [("main", { driver := "sqlite", read := some (.many []) }),
      ("archive", { driver := "sqlite" })]⟩
    { connects := [none, some "down", none, none, none, some "down"] } settling
  have looked : ((crowded.following settling).find? "main").map (·.serial) = some 0 := by
    decide +kernel
  obtain ⟨opened, found, serial⟩ := Option.map_eq_some_iff.mp looked
  have spared : "main" ∉ (crowded.following settling).purged disturbing := by decide +kernel
  obtain ⟨kept, there, same, again⟩ := stays "main" opened disturbing found spared
  exact ⟨tidy, default, kept, there, same.trans serial, again⟩

end Connections

end SqlToolkit
