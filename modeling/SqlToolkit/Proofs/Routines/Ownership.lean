import SqlToolkit.Connection.Connections
import SqlToolkit.Proofs.Routines.Sessions
/-!
Connections by name and the sessions that they hold. No two connections hold the same session, so
what is done on one of them leaves the sessions of the others alone.
-/

namespace SqlToolkit

variable {σ α : Type}

/-! One connection beside others -/

namespace Link

variable [Issuing σ] {others : Session → Prop} {before after : Link σ}

/-- All sessions were opened, and the connection holds none of those that others hold. -/
structure Apart (others : Session → Prop) (link : Link σ) : Prop where
  issued : ∀ session ∈ link.connection.sessions, Issuing.Issued link.database session
  own : ∀ session ∈ link.connection.sessions, ¬ others session
  known : ∀ session, others session → Issuing.Issued link.database session

/-- A connection that holds no session of others still holds none, and closes none. -/
def Spares (others : Session → Prop) (before after : Link σ) : Prop :=
  Apart others before → Apart others after ∧
    Retains Issuing.Issued before.database after.database ∧
    Appends (fun event => ∀ session, others session → event.call ≠ .control session .close)
      before.events after.events

namespace Spares

theorem refl (link : Link σ) : Spares others link link :=
  fun apart => ⟨apart, fun _ issued => issued, .of_eq rfl⟩

theorem trans {middle : Link σ} (first : Spares others before middle)
    (second : Spares others middle after) : Spares others before after := by
  intro apart
  obtain ⟨between, kept, silent⟩ := first apart
  obtain ⟨behind, keptToo, silentToo⟩ := second between
  exact ⟨behind, kept.trans keptToo, silent.trans silentToo⟩

theorem passes : Routine.Passes (Spares (σ := σ) others) :=
  ⟨refl, trans, fun _ _ _ _ apart => ⟨⟨apart.issued, apart.own, apart.known⟩,
    fun _ issued => issued, .of_eq rfl⟩⟩

/-- New sessions are nobody's. -/
theorem of_renews (renews : Renews before after) : Spares others before after := by
  intro apart
  refine ⟨⟨?_, ?_, ?_⟩, renews.retains, renews.closes.mono ?_⟩
  · intro session member
    rcases renews.held session member with held | ⟨-, issued⟩
    · exact renews.retains session (apart.issued session held)
    · exact issued
  · intro session member other
    rcases renews.held session member with held | ⟨new, -⟩
    · exact apart.own session held other
    · exact new (apart.known session other)
  · exact fun session other => renews.retains session (apart.known session other)
  · intro event told session other call
    rcases told session call with held | new
    · exact apart.own session held other
    · exact new (apart.known session other)

end Spares

theorem spares_perform {operation : Operation} {reply : Except Error operation.Answer}
    (handed : ∀ session ∈ operation.handed,
      Issuing.Issued before.database session ∧ ¬ others session)
    (ended : Ends operation.perform before reply after) : Spares others before after := by
  rcases renews_or_sets ended with renews | ⟨same, held⟩
  · exact .of_renews renews
  · intro apart
    refine ⟨⟨?_, ?_, by rw [same]; exact apart.known⟩, fun _ issued => same ▸ issued,
      .of_eq (congrArg Recording.events same)⟩
    · intro session member
      rw [same]
      rcases held session member with before | put
      · exact apart.issued session before
      · exact (handed session put).1
    · intro session member
      rcases held session member with before | put
      · exact apart.own session before
      · exact (handed session put).2

end Link

namespace Connections

/-- A kept connection, together with the database. -/
def link (state : Connections σ) (opened : Opened) : Link σ :=
  ⟨opened.connection, state.database⟩

/-! Finding what is kept -/

section Finding

variable {state : Connections σ} {name other : String}

theorem find?_keep {opened : Opened} (absent : state.find? name = none) :
    (state.keep name opened).find? other =
      if other = name then some opened else state.find? other := by
  unfold find? at absent
  simp only [find?, keep, List.lookup_append, List.lookup_cons, List.lookup_nil]
  by_cases same : other = name
  · subst same
    simp [absent]
  · simp [same, beq_eq_false_iff_ne.mpr same]

theorem find?_update {connection : Connection} :
    (state.update name connection).find? other =
      if other = name then (state.find? name).map fun opened => { opened with connection }
      else state.find? other := by
  simp only [find?, update]
  induction state.opened with
  | nil => simp
  | cons entry rest ih =>
      obtain ⟨key, opened⟩ := entry
      by_cases same : key = name
      · by_cases found : other = name
        · simp [same, found]
        · simpa [List.lookup_cons, same, found, beq_eq_false_iff_ne.mpr found] using ih
      · by_cases found : other = key
        · simp [same, found]
        · by_cases meant : other = name
          · subst meant
            simpa [List.lookup_cons, same, beq_eq_false_iff_ne.mpr found] using ih
          · simpa [List.lookup_cons, same, meant, beq_eq_false_iff_ne.mpr found] using ih

theorem find?_updated {opened : Opened} {connection : Connection}
    (found : state.find? name = some opened) :
    (state.update name connection).find? name = some { opened with connection } := by
  rw [find?_update, if_pos rfl, found, Option.map_some]

theorem find?_forget :
    (state.forget name).find? other = if other = name then none else state.find? other := by
  simp only [find?, forget]
  induction state.opened with
  | nil => simp
  | cons entry rest ih =>
      obtain ⟨key, opened⟩ := entry
      by_cases same : key = name
      · by_cases found : other = name
        · simpa [List.filter_cons, same, found] using ih
        · simpa [List.lookup_cons, same, found, beq_eq_false_iff_ne.mpr found] using ih
      · by_cases found : other = key
        · simp [same, found]
        · simpa [List.lookup_cons, same, beq_eq_false_iff_ne.mpr found] using ih

end Finding

/-! Steps -/

section Steps

variable {before after : Connections σ} {name : String}

theorem of_runOn [Database σ] {connection : Connection} {action : Action σ α} {result : Except Error α}
    (ended : Ends (runOn name connection action) before result after) :
    ∃ final, Ends action ⟨connection, before.database⟩ result final ∧
      after = { before.update name final.connection with database := final.database } := by
  unfold Ends runOn at ended
  cases performed : action ⟨connection, before.database⟩ with
  | ok value final =>
      rw [performed] at ended
      cases result <;> cases ended
      exact ⟨final, performed, rfl⟩
  | error error final =>
      rw [performed] at ended
      cases result <;> cases ended
      exact ⟨final, performed, rfl⟩

theorem of_openNamed [Database σ] {result : Except Error Opened}
    (ended : Ends (openNamed name) before result after) :
    (∃ error, before.config.connection name = .error error ∧ result = .error error ∧
        after = before) ∨
      ∃ config reply database, before.config.connection name = .ok config ∧
        Ends (Connection.connect name config) before.database reply database ∧
        ((∃ error, reply = .error error ∧ result = .error error ∧
            after = { before with database }) ∨
          ∃ connection, reply = .ok connection ∧ result = .ok ⟨before.count, connection⟩ ∧
            after = { before with database, count := before.count + 1 }.keep name
              ⟨before.count, connection⟩) := by
  unfold Ends openNamed at ended
  cases configured : before.config.connection name with
  | error error =>
      simp only [configured] at ended
      cases result <;> cases ended
      exact .inl ⟨error, rfl, rfl, rfl⟩
  | ok config =>
      cases opening : Connection.connect name config before.database with
      | error error database =>
          simp only [configured, opening] at ended
          cases result <;> cases ended
          exact .inr ⟨config, .error error, database, rfl, opening, .inl ⟨_, rfl, rfl, rfl⟩⟩
      | ok connection database =>
          simp only [configured, opening] at ended
          cases result <;> cases ended
          exact .inr ⟨config, .ok connection, database, rfl, opening, .inr ⟨_, rfl, rfl, rfl⟩⟩

theorem of_connection [Database σ] {asked : Option String} {result : Except Error Opened}
    (ended : Ends (connection asked) before result after) :
    (∃ opened, before.find? (before.resolve asked) = some opened ∧ result = .ok opened ∧
        after = before) ∨
      (before.find? (before.resolve asked) = none ∧
        Ends (openNamed (before.resolve asked)) before result after) := by
  unfold connection at ended
  have chosen := ended.of_get
  dsimp only at chosen
  split at chosen
  · rename_i opened found
    obtain ⟨rfl, rfl⟩ := chosen.of_pure
    exact .inl ⟨opened, found, rfl, rfl⟩
  · rename_i absent
    exact .inr ⟨absent, chosen⟩

theorem of_setDefault {result : Except Error Unit}
    (ended : Ends (setDefault name) before result after) :
    after = { before with default := name } := by
  cases result <;> cases ended
  rfl

end Steps

/-! What is held under a name -/

def Holds (state : Connections σ) (name : String) (session : Session) : Prop :=
  ∃ opened, state.find? name = some opened ∧ session ∈ opened.connection.sessions

/-- The session is held under another name than the one that is meant, if one is. -/
def HeldBeside (state : Connections σ) (meant : Option String) (session : Session) : Prop :=
  ∃ name, meant ≠ some name ∧ state.Holds name session

variable {before middle after : Connections σ} {name : String}

variable [Issuing σ]

/-- What is held was opened once, and is held under one name only. -/
structure Owned (state : Connections σ) : Prop where
  issued : ∀ {name session}, state.Holds name session → Issuing.Issued state.database session
  alone : ∀ {name other session}, state.Holds name session → state.Holds other session →
    other = name

theorem Owned.apart (owned : before.Owned) {opened : Opened}
    (found : before.find? name = some opened) :
    Link.Apart (before.HeldBeside (some name)) (before.link opened) where
  issued session member := owned.issued ⟨opened, found, member⟩
  own := by
    rintro session member ⟨other, different, held⟩
    exact different (congrArg some (owned.alone held ⟨opened, found, member⟩))
  known := by
    rintro session ⟨other, -, held⟩
    exact owned.issued held

/-- What is done under a name leaves all other connections as they are. -/
structure Minds (meant : Option String) (before after : Connections σ) : Prop where
  owned : after.Owned
  others : ∀ name, meant ≠ some name → after.find? name = before.find? name
  silent : Appends (fun event => ∀ session, before.HeldBeside meant session →
    event.call ≠ .control session .close)
    (Recording.events before.database) (Recording.events after.database)

namespace Minds

variable {meant : Option String}

theorem heldBeside_iff (minds : Minds meant before after) {session : Session} :
    after.HeldBeside meant session ↔ before.HeldBeside meant session := by
  refine exists_congr fun name => and_congr_right fun different => ?_
  simp only [Holds, minds.others name different]

theorem refl (owned : before.Owned) : Minds meant before before :=
  ⟨owned, fun _ _ => rfl, .of_eq rfl⟩

theorem trans (first : Minds meant before middle) (second : Minds meant middle after) :
    Minds meant before after where
  owned := second.owned
  others name different := (second.others name different).trans (first.others name different)
  silent := by
    refine first.silent.trans (second.silent.mono fun _ spared session held => ?_)
    exact spared session (first.heldBeside_iff.mpr held)

/-- Only the connection of the name has to be looked at. -/
theorem of_apart (owned : before.Owned)
    (others : ∀ other, other ≠ name → after.find? other = before.find? other)
    (apart : ∀ opened, after.find? name = some opened →
      Link.Apart (before.HeldBeside (some name)) (after.link opened))
    (retains : Retains Issuing.Issued before.database after.database)
    (silent : Appends (fun event => ∀ session, before.HeldBeside (some name) session →
      event.call ≠ .control session .close)
      (Recording.events before.database) (Recording.events after.database)) :
    Minds (some name) before after := by
  have stays : ∀ {other session}, other ≠ name → after.Holds other session →
      before.Holds other session := by
    rintro other session different ⟨opened, found, member⟩
    exact ⟨opened, (others other different).symm.trans found, member⟩
  have exclusive : ∀ {other session}, after.Holds name session → after.Holds other session →
      other = name := by
    rintro other session ⟨opened, found, member⟩ held
    refine Decidable.byContradiction fun different => ?_
    have beside : before.HeldBeside (some name) session :=
      ⟨other, fun same => different (Option.some.inj same).symm, stays different held⟩
    exact (apart opened found).own session member beside
  -- A session of the name is its own, so two names that hold one session are both other names.
  refine ⟨⟨?_, ?_⟩, fun other different => others other fun same => different (same ▸ rfl), silent⟩
  · intro other session held
    by_cases same : other = name
    · obtain ⟨opened, found, member⟩ := same ▸ held
      exact (apart opened found).issued session member
    · exact retains session (owned.issued (stays same held))
  · intro first second session held heldToo
    by_cases same : first = name
    · subst same
      exact exclusive held heldToo
    · by_cases sameToo : second = name
      · subst sameToo
        exact (exclusive heldToo held).symm
      · exact owned.alone (stays same held) (stays sameToo heldToo)

theorem forget (minds : Minds (some name) before after) :
    Minds (some name) before (after.forget name) := by
  refine minds.trans (.of_apart minds.owned ?_ ?_ (fun _ issued => issued) (.of_eq rfl))
  · intro other different
    rw [find?_forget, if_neg different]
  · intro opened found
    rw [find?_forget, if_pos rfl] at found
    cases found

end Minds

/-- All sessions of a connection that opens are new. -/
theorem of_connect {config : ConnectionConfig} {before after : σ}
    {result : Except Error Connection}
    (ended : Ends (Connection.connect name config) before result after) :
    Retains Issuing.Issued before after ∧
      Appends Event.Connects (Recording.events before) (Recording.events after) ∧
      ∀ connection, result = .ok connection → ∀ session ∈ connection.sessions,
        ¬ Issuing.Issued before session ∧ Issuing.Issued after session := by
  obtain ⟨reply, opened, made⟩ := Connection.of_connect ended
  refine ⟨(retains_openSessions config).of opened, Link.of_openSessions opened, ?_⟩
  rcases made with ⟨error, rfl⟩ | ⟨write, read, _, _, rfl, rfl⟩
  · rintro connection ⟨⟩
  · rintro _ ⟨⟩ session member
    exact issues_openSessions opened session member

theorem minds_openNamed {result : Except Error Opened} (owned : before.Owned)
    (absent : before.find? name = none) (ended : Ends (openNamed name) before result after) :
    Minds (some name) before after := by
  rcases of_openNamed ended with
    ⟨error, -, -, rfl⟩ | ⟨config, reply, database, -, opening, opened⟩
  · exact .refl owned
  obtain ⟨retains, connects, new⟩ := of_connect opening
  have silent := connects.mono fun _ connect session (_ : before.HeldBeside (some name) session) =>
    connect.lasting session
  rcases opened with ⟨error, -, -, rfl⟩ | ⟨connection, rfl, -, rfl⟩
  · refine .of_apart owned (fun _ _ => rfl) ?_ retains silent
    intro opened found
    cases absent.symm.trans found
  · refine .of_apart owned ?_ ?_ retains silent
    · intro other different
      exact (find?_keep absent).trans (if_neg different)
    · intro opened found
      have kept : some ⟨before.count, connection⟩ = some opened :=
        ((find?_keep absent).trans (if_pos rfl)).symm.trans found
      cases kept
      refine ⟨fun session member => (new connection rfl session member).2, ?_, ?_⟩
      · rintro session member ⟨other, -, held⟩
        exact (new connection rfl session member).1 (owned.issued held)
      · rintro session ⟨other, -, held⟩
        exact retains session (owned.issued held)

theorem minds_update {opened : Opened} {final : Link σ} (owned : before.Owned)
    (found : before.find? name = some opened)
    (spares : Link.Spares (before.HeldBeside (some name)) (before.link opened) final) :
    Minds (some name) before
      { before.update name final.connection with database := final.database } := by
  obtain ⟨apart, retains, silent⟩ := spares (owned.apart found)
  refine .of_apart owned ?_ ?_ retains silent
  · intro other different
    exact find?_update.trans (if_neg different)
  · intro changed kept
    cases (find?_updated found).symm.trans kept
    exact apart

end Connections

end SqlToolkit
