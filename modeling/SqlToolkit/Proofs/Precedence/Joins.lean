import SqlToolkit.Proofs.Precedence.Chains
/-!
The conditions of joins in front of the predicates, in one WHERE. Each join goes on with AND behind
the one before it and has no parentheses of its own, so an OR in a join parts the whole clause.
-/

namespace SqlToolkit

/-! The clause as signs -/

section Defs

variable (dialect : Dialect)

/-- The conditions of a join; `place` is the number of the join. -/
def Join.items (place : Nat) (join : Join) : List (Connective × List Sign) :=
  join.conditions.zipIdx.map fun (condition, index) =>
    (condition.connective, [.condition (.joined place index) (dialect.joinCondition condition)])

def Join.signs (place : Nat) (join : Join) : List Sign :=
  chainSigns (join.items dialect place)

/-- A row that goes on with AND behind another. -/
def goesOn : List (Connective × List Sign) → List (Connective × List Sign)
  | [] => []
  | (_, first) :: rest => (.and, first) :: rest

/-- The conditions of joins in one row; the joins are counted from `place` on. -/
def Join.rows (place : Nat) : List Join → List (Connective × List Sign)
  | [] => []
  | join :: rest => goesOn (join.items dialect place) ++ Join.rows (place + 1) rest

/-- The predicates as one group behind the joins. -/
def whereItem (wheres : List Clause) : List (Connective × List Sign) :=
  if wheres = [] then [] else [(.and, (Predicate.group wheres).signs dialect [])]

def joinedSigns (joins : List Join) (wheres : List Clause) : List Sign :=
  if Join.rows dialect 0 joins = [] then Clause.signs dialect [] 0 wheres
  else chainSigns (Join.rows dialect 0 joins ++ whereItem dialect wheres)

end Defs

section Rows

variable {dialect : Dialect} {truth : Place → Bool}

theorem Join.connectives_items (place : Nat) (join : Join) :
    (join.items dialect place).map Prod.fst = join.conditions.map JoinCondition.connective := by
  have conditions := congrArg (List.map JoinCondition.connective)
    (List.zipIdx_map_fst 0 join.conditions)
  rw [List.map_map] at conditions
  rw [Join.items, List.map_map]
  exact conditions

theorem Join.items_eq_nil_iff {place : Nat} {join : Join} :
    join.items dialect place = [] ↔ join.conditions = [] := by
  simp [Join.items]

theorem Join.readsEach_items (place : Nat) (join : Join) :
    ReadsEach truth (join.items dialect place) := by
  intro item member
  obtain ⟨⟨condition, index⟩, -, rfl⟩ := List.mem_map.mp member
  exact ⟨readsAsOne_condition _ _, rfl⟩

theorem Join.valueOf_items {place : Nat} {join : Join} {value : Bool}
    (uniform : ∀ index, truth (.joined place index) = value) :
    ∀ item ∈ join.items dialect place, valueOf truth item.2 = some value := by
  intro item member
  obtain ⟨⟨condition, index⟩, -, rfl⟩ := List.mem_map.mp member
  rw [← uniform index]
  exact valueOf_condition _ _

theorem Join.valueOf_signs {place : Nat} {join : Join} {value : Bool}
    (conditional : join.conditions ≠ []) (uniform : ∀ index, truth (.joined place index) = value) :
    valueOf truth (join.signs dialect place) = some value :=
  (join.readsEach_items place).valueOf_uniform (Join.items_eq_nil_iff.not.mpr conditional)
    (Join.valueOf_items uniform)

/-! Going on with AND changes no value -/

theorem chainSigns_goesOn (items : List (Connective × List Sign)) :
    chainSigns (goesOn items) = chainSigns items := by
  cases items <;> rfl

theorem forall_goesOn {P : List Sign → Prop} {items : List (Connective × List Sign)} :
    (∀ item ∈ goesOn items, P item.2) ↔ ∀ item ∈ items, P item.2 := by
  cases items <;> simp [goesOn]

theorem goesOn_eq_nil_iff {items : List (Connective × List Sign)} :
    goesOn items = [] ↔ items = [] := by
  cases items <;> simp [goesOn]

theorem goesOn_append {front : List (Connective × List Sign)} (nonempty : front ≠ [])
    (back : List (Connective × List Sign)) : goesOn (front ++ back) = goesOn front ++ back := by
  cases front with
  | nil => exact absurd rfl nonempty
  | cons first rest => rfl

theorem and_of_goesOn {items : List (Connective × List Sign)}
    (joined : Conjoined (items.map Prod.fst)) : ∀ item ∈ goesOn items, item.1 = .and := by
  cases items with
  | nil => simp [goesOn]
  | cons first rest =>
      rw [goesOn, List.forall_mem_cons]
      exact ⟨rfl, fun item member => joined item.1 (List.mem_map_of_mem member)⟩

/-! The row of all joins -/

theorem Join.rows_append (place : Nat) (left right : List Join) :
    Join.rows dialect place (left ++ right) =
      Join.rows dialect place left ++ Join.rows dialect (place + left.length) right := by
  induction left generalizing place with
  | nil => rfl
  | cons join left ih =>
      have counted : place + 1 + left.length = place + (left.length + 1) := by omega
      rw [List.cons_append, Join.rows, Join.rows, ih, List.append_assoc, List.length_cons, counted]

theorem Join.forall_rows {P : List Sign → Prop} {place : Nat} {joins : List Join} :
    (∀ item ∈ Join.rows dialect place joins, P item.2) ↔
      ∀ (index : Nat) (join : Join), joins[index]? = some join →
        ∀ item ∈ join.items dialect (place + index), P item.2 := by
  induction joins generalizing place with
  | nil => simp [Join.rows]
  | cons first rest ih =>
      rw [Join.rows, List.forall_mem_append, forall_goesOn, ih]
      constructor
      · rintro ⟨here, behind⟩ index join found
        cases index with
        | zero =>
            cases found
            exact here
        | succ index =>
            have counted : place + (index + 1) = place + 1 + index := by omega
            rw [counted]
            exact behind index join found
      · intro all
        refine ⟨all 0 first rfl, fun index join found => ?_⟩
        have counted : place + 1 + index = place + (index + 1) := by omega
        rw [counted]
        exact all (index + 1) join found

theorem Join.readsEach_rows (place : Nat) (joins : List Join) :
    ReadsEach truth (Join.rows dialect place joins) :=
  (Join.forall_rows
    (P := fun signs => ReadsAsOne truth signs ∧ (valueOf truth signs).isSome = true)).mpr
      fun _ join _ => join.readsEach_items _

theorem Join.rows_eq_nil_iff {place : Nat} {joins : List Join} :
    Join.rows dialect place joins = [] ↔ ∀ join ∈ joins, join.conditions = [] := by
  induction joins generalizing place with
  | nil => simp [Join.rows]
  | cons first rest ih =>
      rw [Join.rows, List.append_eq_nil_iff, goesOn_eq_nil_iff, Join.items_eq_nil_iff, ih,
        List.forall_mem_cons]

theorem Join.and_of_rows {place : Nat} {joins : List Join}
    (joined : ∀ join ∈ joins, Conjoined (join.conditions.map JoinCondition.connective)) :
    ∀ item ∈ Join.rows dialect place joins, item.1 = .and := by
  induction joins generalizing place with
  | nil => simp [Join.rows]
  | cons first rest ih =>
      obtain ⟨alone, others⟩ := List.forall_mem_cons.mp joined
      rw [Join.rows, List.forall_mem_append]
      exact ⟨and_of_goesOn (by rwa [Join.connectives_items]), ih others⟩

/-! What is written -/

theorem Join.spell_signs (place : Nat) (join : Join) :
    spell (join.signs dialect place) = dialect.joinConditions join := by
  have texts : (join.items dialect place).map (fun item => (item.1, spell item.2)) =
      join.conditions.map fun condition =>
        (condition.connective, dialect.joinCondition condition) := by
    have conditions := congrArg
      (List.map fun condition : JoinCondition =>
        (condition.connective, dialect.joinCondition condition))
      (List.zipIdx_map_fst 0 join.conditions)
    rw [List.map_map] at conditions
    rw [Join.items, List.map_map, ← conditions]
    refine List.map_congr_left fun entry _ => ?_
    simp [spell, Sign.text]
  rw [Join.signs, spell_chainSigns, texts, Dialect.joinConditions]

theorem linked_append (left right : List (Connective × String)) :
    linked (left ++ right) = linked left ++ linked right := by
  rw [linked, List.map_append, String.join_append, linked, linked]

/-- What is written of a row that goes on with AND behind another. -/
theorem linked_goesOn {items : List (Connective × List Sign)} (nonempty : items ≠ []) :
    linked ((goesOn items).map fun item => (item.1, spell item.2)) =
      " AND " ++ spell (chainSigns items) := by
  obtain ⟨⟨connective, first⟩, rest, rfl⟩ := List.exists_cons_of_ne_nil nonempty
  rw [goesOn, spell_chainSigns, List.map_cons, List.map_cons, chain_cons, linked, List.map_cons,
    String.join_cons, ← linked]
  simp only [Connective.text, String.append_assoc]
  rfl

theorem Join.goesOn_rows (place : Nat) (joins : List Join) :
    goesOn (Join.rows dialect place joins) = Join.rows dialect place joins := by
  induction joins generalizing place with
  | nil => rfl
  | cons first rest ih =>
      rw [Join.rows]
      cases first.items dialect place with
      | nil => exact ih (place + 1)
      | cons item items => rfl

/-- The conditions of all joins as the dialect writes them. -/
theorem Join.linked_rows (place : Nat) (joins : List Join) :
    linked ((Join.rows dialect place joins).map fun item => (item.1, spell item.2)) =
      String.join (((joins.filter fun join => join.conditions ≠ []).map
        dialect.joinConditions).map fun text => " AND " ++ text) := by
  induction joins generalizing place with
  | nil => rfl
  | cons first rest ih =>
      rw [Join.rows, List.map_append, linked_append, ih]
      by_cases bare : first.conditions = []
      · rw [Join.items_eq_nil_iff.mpr bare, List.filter_cons_of_neg (by simpa using bare)]
        exact String.empty_append
      · rw [linked_goesOn (Join.items_eq_nil_iff.not.mpr bare), ← Join.signs, Join.spell_signs,
          List.filter_cons_of_pos (by simpa using bare), List.map_cons, List.map_cons,
          String.join_cons]

theorem joinConditions_ne_empty {join : Join} (conditional : join.conditions ≠ []) :
    dialect.joinConditions join ≠ "" := by
  obtain ⟨condition, rest, parts⟩ := List.exists_cons_of_ne_nil conditional
  rw [Dialect.joinConditions, parts, List.map_cons, chain_cons, Dialect.joinCondition]
  simp

/-! The predicates behind the joins -/

variable {joins : List Join} {wheres : List Clause}

theorem readsEach_whereItem (populated : Clause.Populated wheres) :
    ReadsEach truth (whereItem dialect wheres) := by
  unfold whereItem
  split
  · exact nofun
  · rename_i some
    exact List.forall_mem_singleton.mpr
      ⟨readsAsOne_signs _ _, valueOf_signs_isSome (.group wheres) [] ⟨some, populated⟩⟩

theorem forall_whereItem (populated : Clause.Populated wheres) :
    (∀ item ∈ whereItem dialect wheres, valueOf truth item.2 = some true) ↔
      Passes truth (Clause.signs dialect [] 0 wheres) := by
  unfold whereItem
  by_cases none : wheres = []
  · rw [if_pos none]
    exact iff_of_true nofun (.inl (Clause.signs_eq_nil_iff.mpr none))
  · rw [if_neg none, List.forall_mem_singleton]
    exact Clause.value_group ⟨none, populated⟩ []

theorem and_of_whereItem : ∀ item ∈ whereItem dialect wheres, item.1 = .and := by
  unfold whereItem
  split <;> simp

theorem readsEach_joined (populated : Clause.Populated wheres) :
    ReadsEach truth (Join.rows dialect 0 joins ++ whereItem dialect wheres) :=
  (Join.readsEach_rows 0 joins).append (readsEach_whereItem populated)

/-- Without conditions of joins the predicates stand without parentheses, and pass the same rows. -/
theorem passes_joinedSigns (populated : Clause.Populated wheres) :
    Passes truth (joinedSigns dialect joins wheres) ↔
      Passes truth (chainSigns (Join.rows dialect 0 joins ++ whereItem dialect wheres)) := by
  unfold joinedSigns
  split
  · rename_i none
    have group : ReadsEach truth (whereItem dialect wheres) := readsEach_whereItem populated
    have joined : Conjoined ((whereItem dialect wheres).map Prod.fst) :=
      .of_forall (List.forall_mem_map.mpr and_of_whereItem)
    rw [none, List.nil_append, group.passes_conjoined joined, forall_whereItem populated]
  · rfl

/-- The clause that is written for a joined change is the spelling of the signs. -/
theorem joinedWhere_eq_spellClause (joins : List Join) (wheres : List Clause) :
    dialect.joinedWhere joins wheres = spellClause "WHERE" (joinedSigns dialect joins wheres) := by
  unfold Dialect.joinedWhere joinedSigns
  -- The dialect asks whether the text of the joins is empty, the signs whether they have conditions.
  cases listed : joins.filter fun join => join.conditions ≠ [] with
  | nil =>
      have bare : ∀ join ∈ joins, join.conditions = [] := by simpa using listed
      rw [if_pos (Join.rows_eq_nil_iff.mpr bare)]
      exact whereClause_eq_spellClause wheres
  | cons join others =>
      have member : join ∈ joins.filter fun join => join.conditions ≠ [] := by
        rw [listed]
        exact List.mem_cons_self
      obtain ⟨member, conditional⟩ := List.mem_filter.mp member
      have nonempty : Join.rows dialect 0 joins ≠ [] := fun none =>
        of_decide_eq_true conditional (Join.rows_eq_nil_iff.mp none join member)
      have written : " AND ".intercalate ((join :: others).map dialect.joinConditions) ≠ "" := by
        rw [List.map_cons, intercalate_cons]
        simp [joinConditions_ne_empty (of_decide_eq_true conditional)]
      have whole : spell (chainSigns (Join.rows dialect 0 joins ++ whereItem dialect wheres)) =
          " AND ".intercalate ((join :: others).map dialect.joinConditions) ++
            linked ((whereItem dialect wheres).map fun item => (item.1, spell item.2)) := by
        have some : Join.rows dialect 0 joins ++ whereItem dialect wheres ≠ [] :=
          List.append_ne_nil_of_left_ne_nil nonempty _
        -- With one more AND in front, each join is written alike.
        rw [← String.append_right_inj " AND ", ← linked_goesOn some, goesOn_append nonempty,
          Join.goesOn_rows, List.map_append, linked_append, Join.linked_rows, listed, List.map_cons,
          List.map_cons, String.join_cons, intercalate_cons]
        simp only [String.append_assoc]
      have signs : chainSigns (Join.rows dialect 0 joins ++ whereItem dialect wheres) ≠ [] := by
        intro none
        rw [none] at whole
        exact written (String.append_eq_empty_iff.mp whole.symm).1
      rw [if_neg written, if_neg nonempty, spellClause, if_neg signs, whole]
      cases wheres with
      | nil => simp [whereItem, linked]
      | cons clause rest =>
          rw [if_neg (by simp), whereItem, if_neg (by simp), List.map_singleton, linked,
            List.map_singleton, SqlToolkit.spell_signs, Dialect.predicate, ← String.toList_inj]
          simp [Connective.text]

/-- The joins and the predicates, each taken for itself. -/
def PassesAll (dialect : Dialect) (truth : Place → Bool) (joins : List Join)
    (wheres : List Clause) : Prop :=
  (∀ (place : Nat) (join : Join), joins[place]? = some join →
    Passes truth (join.signs dialect place)) ∧
  Passes truth (Clause.signs dialect [] 0 wheres)

/-- Joins without OR keep the clause one conjunction. -/
theorem passes_joined_of_conjoined (populated : Clause.Populated wheres)
    (joined : ∀ join ∈ joins, Conjoined (join.conditions.map JoinCondition.connective)) :
    Passes truth (joinedSigns dialect joins wheres) ↔ PassesAll dialect truth joins wheres := by
  have row : Conjoined ((Join.rows dialect 0 joins ++ whereItem dialect wheres).map Prod.fst) :=
    .of_forall (List.forall_mem_map.mpr
      (List.forall_mem_append.mpr ⟨Join.and_of_rows joined, and_of_whereItem⟩))
  rw [passes_joinedSigns populated, (readsEach_joined populated).passes_conjoined row,
    List.forall_mem_append, forall_whereItem populated,
    Join.forall_rows (P := fun signs => valueOf truth signs = some true), PassesAll]
  refine and_congr_left fun _ => forall_congr' fun place => forall_congr' fun join =>
    imp_congr_right fun found => ?_
  have alone : Conjoined ((join.items dialect place).map Prod.fst) := by
    rw [Join.connectives_items]
    exact joined join (List.mem_of_getElem? found)
  rw [Nat.zero_add, Join.signs, (join.readsEach_items place).passes_conjoined alone]

/-- The row of all joins parts at an OR of one of them. -/
theorem Join.exists_split_rows (dialect : Dialect) {join : Join} (left right : List Join)
    (several : ¬Conjoined (join.conditions.map JoinCondition.connective)) :
    ∃ front signs back, front ≠ [] ∧
      join.items dialect left.length = front ++ (.or, signs) :: back ∧
      Join.rows dialect 0 (left ++ join :: right) =
        (Join.rows dialect 0 left ++ goesOn front) ++ (.or, signs) ::
          (back ++ Join.rows dialect (left.length + 1) right) := by
  have connectives : (join.items dialect left.length).map Prod.fst = _ :=
    Join.connectives_items left.length join
  rw [← connectives] at several
  obtain ⟨front, ⟨connective, signs⟩, back, parts, nonempty, rfl⟩ :=
    exists_split_of_not_conjoined several
  refine ⟨front, signs, back, nonempty, parts, ?_⟩
  rw [Join.rows_append, Join.rows, Nat.zero_add, parts, goesOn_append nonempty]
  simp only [List.append_assoc, List.cons_append]

section Parted

variable {left right : List Join} {join : Join}

/-- What stands in front of an OR passes without the joins and the predicates behind it. -/
theorem passes_joined_front (populated : Clause.Populated wheres)
    (several : ¬Conjoined (join.conditions.map JoinCondition.connective))
    (all : ∀ place index, place ≤ left.length → truth (.joined place index) = true) :
    Passes truth (joinedSigns dialect (left ++ join :: right) wheres) := by
  obtain ⟨front, signs, back, nonempty, parts, row⟩ :=
    Join.exists_split_rows dialect left right several
  have each : ReadsEach truth
      (Join.rows dialect 0 (left ++ join :: right) ++ whereItem dialect wheres) :=
    readsEach_joined populated
  rw [passes_joinedSigns populated]
  rw [row, List.append_assoc, List.cons_append] at each ⊢
  rw [each.passes_split (by simp [goesOn_eq_nil_iff, nonempty])]
  have first : ReadsEach truth (Join.rows dialect 0 left ++ goesOn front) :=
    (List.forall_mem_append.mp each).1
  refine .inl (first.passes_of_all (List.forall_mem_append.mpr ⟨?_, ?_⟩))
  · refine (Join.forall_rows (P := fun signs => valueOf truth signs = some true)).mpr ?_
    intro index other found
    refine Join.valueOf_items fun condition => all _ condition ?_
    have bound := (List.getElem?_eq_some_iff.mp found).1
    omega
  · refine (forall_goesOn (P := fun signs => valueOf truth signs = some true)).mpr ?_
    intro item member
    have listed : item ∈ join.items dialect left.length := by
      rw [parts]
      exact List.mem_append_left _ member
    exact Join.valueOf_items (fun condition => all _ condition (Nat.le_refl _)) item listed

/-- What stands behind an OR of the last join passes without the joins before it. -/
theorem passes_joined_back (last : ∀ other ∈ right, other.conditions = [])
    (several : ¬Conjoined (join.conditions.map JoinCondition.connective))
    (all : ∀ index, truth (.joined left.length index) = true) :
    Passes truth (joinedSigns dialect (left ++ join :: right) []) := by
  obtain ⟨front, signs, back, nonempty, parts, row⟩ :=
    Join.exists_split_rows dialect left right several
  have populated : Clause.Populated [] := trivial
  have each : ReadsEach truth
      (Join.rows dialect 0 (left ++ join :: right) ++ whereItem dialect []) :=
    readsEach_joined populated
  rw [passes_joinedSigns populated]
  have silent : Join.rows dialect (left.length + 1) right = [] := Join.rows_eq_nil_iff.mpr last
  rw [row, silent, List.append_nil, whereItem, if_pos rfl, List.append_nil] at each ⊢
  rw [each.passes_split (by simp [goesOn_eq_nil_iff, nonempty])]
  have second : ReadsEach truth ((.or, signs) :: back) := (List.forall_mem_append.mp each).2
  refine .inr (second.passes_of_all fun item member => ?_)
  have listed : item ∈ join.items dialect left.length := by
    rw [parts]
    exact List.mem_append_right _ member
  exact Join.valueOf_items all item listed

end Parted

theorem Join.passes_of_bare {place : Nat} {join : Join} (bare : join.conditions = []) :
    Passes truth (join.signs dialect place) := by
  refine .inl ?_
  rw [Join.signs, Join.items_eq_nil_iff.mpr bare]
  rfl

/-- The conditions of one join, and nothing else, keep their grouping. -/
theorem passes_joined_of_lone
    (lone : (joins.filter fun join => join.conditions ≠ []).length ≤ 1) :
    Passes truth (joinedSigns dialect joins []) ↔ PassesAll dialect truth joins [] := by
  have populated : Clause.Populated [] := trivial
  cases listed : joins.filter fun join => join.conditions ≠ [] with
  | nil =>
      have bare : ∀ join ∈ joins, join.conditions = [] := by simpa using listed
      refine passes_joined_of_conjoined populated fun join member => ?_
      rw [bare join member]
      exact nofun
  | cons join others =>
      obtain rfl : others = [] := by
        rw [listed, List.length_cons] at lone
        exact List.length_eq_zero_iff.mp (by omega)
      obtain ⟨left, right, rfl, before, -, behind⟩ := List.filter_eq_cons_iff.mp listed
      have bareLeft : ∀ other ∈ left, other.conditions = [] := by simpa using before
      have bareRight : ∀ other ∈ right, other.conditions = [] := by simpa using behind
      have row : Join.rows dialect 0 (left ++ join :: right) =
          goesOn (join.items dialect left.length) := by
        rw [Join.rows_append, Join.rows, Join.rows_eq_nil_iff.mpr bareLeft,
          Join.rows_eq_nil_iff.mpr bareRight, List.nil_append, List.append_nil, Nat.zero_add]
      rw [passes_joinedSigns populated, row, whereItem, if_pos rfl, List.append_nil,
        chainSigns_goesOn]
      constructor
      -- All places but that of the join belong to joins without conditions.
      · refine fun passes => ⟨fun place other found => ?_, .inl rfl⟩
        rw [List.getElem?_append] at found
        split at found
        · exact Join.passes_of_bare (bareLeft other (List.mem_of_getElem? found))
        · rename_i beyond
          rcases Nat.eq_or_lt_of_not_lt beyond with same | after
          · subst same
            rw [Nat.sub_self] at found
            cases found
            exact passes
          · obtain ⟨count, counted⟩ := Nat.exists_eq_succ_of_ne_zero (Nat.sub_ne_zero_of_lt after)
            rw [counted] at found
            exact Join.passes_of_bare (bareRight other (List.mem_of_getElem? found))
      · exact fun all => all.1 left.length join (by simp)

/-- Everything holds but the conditions of the other joins. -/
def Place.isOfJoin (join : Nat) : Place → Bool
  | joined place _ => place = join
  | filter _ => true

/-- The conditions of the joins up to one hold, and nothing else. -/
def Place.isUpToJoin (join : Nat) : Place → Bool
  | joined place _ => place ≤ join
  | filter _ => false

/-- With an OR in a join, and other joins or predicates beside it, some rows pass that a part of the
statement does not admit. -/
theorem exists_unguarded {left right : List Join} {join : Join}
    (populated : Clause.Populated wheres)
    (several : ¬Conjoined (join.conditions.map JoinCondition.connective))
    (beside : wheres = [] → ∃ other ∈ left ++ right, other.conditions ≠ []) :
    ∃ truth, Passes truth (joinedSigns dialect (left ++ join :: right) wheres) ∧
      ¬PassesAll dialect truth (left ++ join :: right) wheres := by
  -- What stands behind an OR is tried where the row ends with the join, else what is in front of it.
  by_cases last : wheres = [] ∧ ∀ other ∈ right, other.conditions = []
  · obtain ⟨rfl, bare⟩ := last
    obtain ⟨other, listed, conditional⟩ := beside rfl
    have member : other ∈ left := (List.mem_append.mp listed).resolve_right fun member =>
      conditional (bare other member)
    obtain ⟨place, found⟩ := List.getElem?_of_mem member
    have bound := (List.getElem?_eq_some_iff.mp found).1
    let truth := Place.isOfJoin left.length
    refine ⟨truth, passes_joined_back bare several fun index => decide_eq_true rfl, fun all => ?_⟩
    have refused : valueOf truth (other.signs dialect place) = some false :=
      Join.valueOf_signs conditional fun index => decide_eq_false (Nat.ne_of_lt bound)
    exact not_passes_of_value refused
      (all.1 place other (by rwa [List.getElem?_append_left bound]))
  · let truth := Place.isUpToJoin left.length
    refine ⟨truth, passes_joined_front populated several fun place index before =>
      decide_eq_true before, fun all => ?_⟩
    by_cases none : wheres = []
    · obtain ⟨other, member, conditional⟩ : ∃ other ∈ right, other.conditions ≠ [] := by
        simpa [none] using last
      obtain ⟨place, found⟩ := List.getElem?_of_mem member
      have refused : valueOf truth (other.signs dialect (left.length + 1 + place)) = some false :=
        Join.valueOf_signs conditional fun index => decide_eq_false (by omega)
      have listed : (left ++ join :: right)[left.length + 1 + place]? = some other := by
        have counted : left.length + 1 + place - left.length = place + 1 := by omega
        rw [List.getElem?_append_right (by omega), counted]
        exact found
      exact not_passes_of_value refused (all.1 _ other listed)
    · have refused : valueOf truth (Clause.signs dialect [] 0 wheres) = some false :=
        Clause.valueOf_uniform populated none [] 0 fun _ _ _ _ => rfl
      exact not_passes_of_value refused all.2

theorem joined_iff (populated : Clause.Populated wheres) :
    (∀ truth, Passes truth (joinedSigns dialect joins wheres) ↔
      PassesAll dialect truth joins wheres) ↔
      (∀ join ∈ joins, Conjoined (join.conditions.map JoinCondition.connective)) ∨
        wheres = [] ∧ (joins.filter fun join => join.conditions ≠ []).length ≤ 1 := by
  constructor
  · intro whole
    by_contra neither
    obtain ⟨some, crowded⟩ := not_or.mp neither
    obtain ⟨join, member, several⟩ : ∃ join ∈ joins,
        ¬Conjoined (join.conditions.map JoinCondition.connective) := by
      simpa using some
    obtain ⟨left, right, rfl⟩ := List.append_of_mem member
    have beside : wheres = [] → ∃ other ∈ left ++ right, other.conditions ≠ [] := by
      intro none
      by_contra bare
      have silent : (left ++ right).filter (fun join => join.conditions ≠ []) = [] :=
        List.filter_eq_nil_iff.mpr fun other member conditional =>
          bare ⟨other, member, of_decide_eq_true conditional⟩
      refine crowded ⟨none, ?_⟩
      rw [List.filter_append, List.append_eq_nil_iff] at silent
      rw [List.filter_append, List.filter_cons, silent.1, silent.2]
      split <;> simp
    obtain ⟨truth, passes, refused⟩ := exists_unguarded populated several beside
    exact refused ((whole truth).mp passes)
  · rintro (joined | ⟨rfl, lone⟩) truth
    · exact passes_joined_of_conjoined populated joined
    · exact passes_joined_of_lone lone

end Rows

/-- A joined update or delete of PostgreSQL changes the rows that all joins and the predicates admit
just if no join has an OR, or its one join with conditions is all that there is. -/
theorem joined_change_admits_all_iff (dialect : Dialect) (postgres : dialect.vendor = .postgres)
    (steps : List Step) (joined : (({ dialect } : Builder).run steps).query.joins ≠ []) :
    let query := (({ dialect } : Builder).run steps).query
    let signs := joinedSigns dialect query.joins query.wheres
    (∀ table, query.table = some table →
      (∀ record : Record, record.isEmpty = false →
        dialect.update query record = .ok (joinParts ["UPDATE " ++ dialect.tableRef table ++ " " ++
          ("SET " ++ dialect.assignments record), "FROM " ++ dialect.joinedTables query.joins,
          spellClause "WHERE" signs])) ∧
      dialect.delete query = .ok (joinParts ["DELETE FROM " ++ dialect.tableRef table ++
        " USING " ++ dialect.joinedTables query.joins, spellClause "WHERE" signs])) ∧
    ((∀ truth, Passes truth signs ↔
        (∀ (place : Nat) (join : Join), query.joins[place]? = some join →
          Passes truth (join.signs dialect place)) ∧
        Passes truth (Clause.signs dialect [] 0 query.wheres)) ↔
      (∀ join ∈ query.joins, Conjoined (join.conditions.map JoinCondition.connective)) ∨
        query.wheres = [] ∧
          (query.joins.filter fun join => join.conditions ≠ []).length ≤ 1) := by
  intro query signs
  have populated : Clause.Populated query.wheres := Builder.Populated.run steps _ trivial
  have some : query.joins.isEmpty = false := by simpa using joined
  refine ⟨fun table named => ⟨fun record assigned => ?update, ?delete⟩, joined_iff populated⟩
  case update =>
    rw [← joinedWhere_eq_spellClause]
    simp [Dialect.update, Dialect.targetTable, named, assigned, postgres, some, bind, Except.bind,
      pure, Except.pure]
  case delete =>
    rw [← joinedWhere_eq_spellClause]
    simp [Dialect.delete, Dialect.targetTable, named, postgres, some, bind, Except.bind, pure,
      Except.pure]

/-- Two joins, and an OR among the predicates. -/
def staleContacts : List Step :=
  [.table (.named "users"),
    .join ⟨.inner, .named "contacts", [⟨.and, .named "users.id", "=", .column (.named "user_id")⟩,
      ⟨.and, .named "contacts.kind", "=", .value (.bound (.text "mail"))⟩]⟩,
    .join ⟨.inner, .named "bounces",
      [⟨.and, .named "bounces.mail", "=", .column (.named "contacts.mail")⟩]⟩,
    .whereCompare .and (.named "bounces.count") ">" (.bound (.integer 9)),
    .whereNull .or false (.named "users.seen")]

theorem stale_contacts_admit_all :
    let dialect := Vendor.postgres.dialect
    let query := (({ dialect } : Builder).run staleContacts).query
    query.joins.length = 2 ∧ query.wheres.length = 2 ∧
    ∀ truth, Passes truth (joinedSigns dialect query.joins query.wheres) ↔
      (∀ (place : Nat) (join : Join), query.joins[place]? = some join →
        Passes truth (join.signs dialect place)) ∧
      Passes truth (Clause.signs dialect [] 0 query.wheres) := by
  have admitted := joined_change_admits_all_iff Vendor.postgres.dialect rfl staleContacts
    (List.cons_ne_nil _ _)
  exact ⟨rfl, rfl, admitted.2.mpr (.inl (by decide))⟩

def eitherContact : List Step :=
  [.table (.named "users"),
    .join ⟨.inner, .named "contacts",
      [⟨.and, .named "users.id", "=", .column (.named "contacts.user_id")⟩,
        ⟨.or, .named "users.email", "=", .column (.named "contacts.email")⟩]⟩,
    .whereCompare .and (.named "users.id") "=" (.bound (.integer 1))]

/-- A row that the first condition of the join admits is deleted against the predicate. -/
theorem delete_passed_by_alternative :
    let dialect := Vendor.postgres.dialect
    let query := (({ dialect } : Builder).run eitherContact).query
    let truth (place : Place) : Bool := place = .joined 0 0
    dialect.delete query = .ok ("DELETE FROM \"users\" USING \"contacts\" WHERE " ++
      "\"users\".\"id\" = \"contacts\".\"user_id\" OR " ++
      "\"users\".\"email\" = \"contacts\".\"email\" AND (\"users\".\"id\" = %s)") ∧
    Passes truth (joinedSigns dialect query.joins query.wheres) ∧
    ¬Passes truth (Clause.signs dialect [] 0 query.wheres) := by
  decide +kernel

end SqlToolkit
