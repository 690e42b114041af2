import SqlToolkit.Proofs.Draft.Agreement
import SqlToolkit.Proofs.Precedence.Signs
/-!
Predicates as signs. What the dialect writes for a list of predicates is the spelling of a row of
signs, in which a group is one condition in parentheses. The list can be read at every assignment of
truth values if it has no group without members, and then it is what its predicates are together.
-/

namespace SqlToolkit

section Defs

variable (dialect : Dialect)

mutual

/-- The predicates inside a group have their places behind the place of the group. -/
def Predicate.signs (path : List Nat) : Predicate → List Sign
  | .group members => .opening :: chainSigns (Clause.items path 0 members) ++ [.closing]
  | predicate => [.condition (.filter path) (dialect.predicate predicate)]

/-- The items of a row, with places that are counted from `next` on. -/
def Clause.items (path : List Nat) (next : Nat) : List Clause → List (Connective × List Sign)
  | [] => []
  | ⟨connective, predicate⟩ :: rest =>
      (connective, predicate.signs (path ++ [next])) :: Clause.items path (next + 1) rest

end

def Clause.signs (path : List Nat) (next : Nat) (clauses : List Clause) : List Sign :=
  chainSigns (Clause.items dialect path next clauses)

end Defs

mutual

/-- No group without members, at any depth. -/
def Predicate.Populated : Predicate → Prop
  | .group members => members ≠ [] ∧ Clause.Populated members
  | _ => True

def Clause.Populated : List Clause → Prop
  | [] => True
  | ⟨_, predicate⟩ :: rest => predicate.Populated ∧ Clause.Populated rest

end

theorem Clause.populated_append {left right : List Clause} :
    Clause.Populated (left ++ right) ↔ Clause.Populated left ∧ Clause.Populated right := by
  induction left with
  | nil => simp [Clause.Populated]
  | cons clause left ih =>
      obtain ⟨connective, predicate⟩ := clause
      rw [List.cons_append, Clause.Populated, Clause.Populated, ih, and_assoc]

section Texts

variable {dialect : Dialect}

/-! The text of signs -/

theorem spell_cons (sign : Sign) (signs : List Sign) :
    spell (sign :: signs) = sign.text ++ spell signs :=
  String.join_cons

theorem spell_append (left right : List Sign) :
    spell (left ++ right) = spell left ++ spell right := by
  rw [spell, List.map_append, String.join_append, spell, spell]

theorem intercalate_cons (separator first : String) (rest : List String) :
    separator.intercalate (first :: rest) =
      first ++ String.join (rest.map fun text => separator ++ text) := by
  induction rest generalizing first with
  | nil => simp
  | cons next rest ih =>
      rw [String.intercalate_cons_cons, ih, List.map_cons, String.join_cons]
      simp only [String.append_assoc]

/-- What is written of clauses behind others. -/
def linked (clauses : List (Connective × String)) : String :=
  String.join (clauses.map fun (connective, text) => " " ++ connective.text ++ " " ++ text)

theorem chain_cons (connective : Connective) (first : String) (rest : List (Connective × String)) :
    chain ((connective, first) :: rest) = first ++ linked rest := by
  rw [chain, intercalate_cons, List.map_map, linked]
  simp only [Function.comp_def, String.append_assoc]

theorem spell_chainSigns (items : List (Connective × List Sign)) :
    spell (chainSigns items) = chain (items.map fun item => (item.1, spell item.2)) := by
  cases items with
  | nil => rfl
  | cons item rest =>
      obtain ⟨connective, first⟩ := item
      rw [chainSigns, spell_append, List.map_cons, chain_cons]
      congr 1
      induction rest with
      | nil => rfl
      | cons next rest ih =>
          obtain ⟨chained, signs⟩ := next
          rw [List.flatMap_cons, List.cons_append, spell_cons, spell_append, ih, linked, linked,
            List.map_cons, List.map_cons, String.join_cons]
          simp only [Sign.text, String.append_assoc]

mutual

theorem spell_signs : ∀ (predicate : Predicate) (path : List Nat),
    spell (predicate.signs dialect path) = dialect.predicate predicate
  | .group members, path => by
      rw [Predicate.signs, List.cons_append, spell_cons, spell_append, spell_chainSigns,
        spell_items members, Dialect.predicate]
      simp [spell, Sign.text, String.append_assoc]
  | .compare _ _ _, _ | .compareColumns _ _ _, _ | .compareQuery _ _ _, _ | .inList _ _ _, _
  | .inQuery _ _ _, _ | .isNull _ _, _ | .between _ _ _ _, _ | .exists _ _, _
  | .compareDate _ _ _ _, _ | .raw _, _ => by
      simp [Predicate.signs, spell, Sign.text]

theorem spell_items : ∀ (clauses : List Clause) (path : List Nat) (next : Nat),
    (Clause.items dialect path next clauses).map (fun item => (item.1, spell item.2)) =
      dialect.clauses clauses
  | [], _, _ => by simp [Clause.items, Dialect.clauses]
  | ⟨connective, predicate⟩ :: rest, path, next => by
      rw [Clause.items, List.map_cons, spell_signs predicate, spell_items rest, Dialect.clauses]

end

theorem signs_ne_nil (predicate : Predicate) (path : List Nat) :
    predicate.signs dialect path ≠ [] := by
  cases predicate <;> simp [Predicate.signs]

theorem chainSigns_eq_nil_iff {items : List (Connective × List Sign)}
    (each : ∀ item ∈ items, item.2 ≠ []) : chainSigns items = [] ↔ items = [] := by
  cases items with
  | nil => simp [chainSigns]
  | cons item rest =>
      have first := each item List.mem_cons_self
      simp [chainSigns, first]

theorem Clause.items_append (path : List Nat) (next : Nat) (left right : List Clause) :
    Clause.items dialect path next (left ++ right) =
      Clause.items dialect path next left ++
        Clause.items dialect path (next + left.length) right := by
  induction left generalizing next with
  | nil => simp [Clause.items]
  | cons clause left ih =>
      obtain ⟨connective, predicate⟩ := clause
      have counted : next + 1 + left.length = next + (left.length + 1) := by omega
      rw [List.cons_append, Clause.items, Clause.items, ih, List.cons_append, List.length_cons,
        counted]

theorem Clause.connectives_items (path : List Nat) (next : Nat) (clauses : List Clause) :
    (Clause.items dialect path next clauses).map Prod.fst = clauses.map Clause.connective := by
  induction clauses generalizing next with
  | nil => rfl
  | cons clause rest ih =>
      obtain ⟨connective, predicate⟩ := clause
      simp [Clause.items, ih]

theorem Clause.items_eq_nil_iff {path : List Nat} {next : Nat} {clauses : List Clause} :
    Clause.items dialect path next clauses = [] ↔ clauses = [] := by
  have connectives : (Clause.items dialect path next clauses).map Prod.fst = _ :=
    Clause.connectives_items path next clauses
  rw [← List.map_eq_nil_iff, connectives, List.map_eq_nil_iff]

theorem Clause.signs_eq_nil_iff {path : List Nat} {next : Nat} {clauses : List Clause} :
    Clause.signs dialect path next clauses = [] ↔ clauses = [] := by
  rw [Clause.signs, chainSigns_eq_nil_iff, Clause.items_eq_nil_iff]
  induction clauses generalizing next with
  | nil => simp [Clause.items]
  | cons clause rest ih =>
      obtain ⟨connective, predicate⟩ := clause
      rw [Clause.items, List.forall_mem_cons]
      exact ⟨signs_ne_nil predicate _, ih⟩

theorem Clause.spell_signs (path : List Nat) (next : Nat) (clauses : List Clause) :
    spell (Clause.signs dialect path next clauses) = chain (dialect.clauses clauses) := by
  rw [Clause.signs, spell_chainSigns, spell_items]

/-- The clause that the dialect writes is the spelling of the signs. -/
theorem whereClause_eq_spellClause (wheres : List Clause) :
    dialect.whereClause wheres = spellClause "WHERE" (Clause.signs dialect [] 0 wheres) := by
  rw [Dialect.whereClause, headed, spellClause, Clause.spell_signs]
  cases wheres with
  | nil => simp [Dialect.clauses, Clause.signs, Clause.items, chainSigns]
  | cons clause rest =>
      obtain ⟨connective, predicate⟩ := clause
      rw [if_neg (by simp [Dialect.clauses]), if_neg (by simp [Clause.signs_eq_nil_iff])]

end Texts

section Values

variable {dialect : Dialect} {truth : Place → Bool}

mutual

theorem readsAsOne_signs : ∀ (predicate : Predicate) (path : List Nat),
    ReadsAsOne truth (predicate.signs dialect path)
  | .group members, path => by
      rw [Predicate.signs]
      exact (readsWithin_chain (readsAsOne_items members path 0)).parens
  | .compare _ _ _, _ | .compareColumns _ _ _, _ | .compareQuery _ _ _, _ | .inList _ _ _, _
  | .inQuery _ _ _, _ | .isNull _ _, _ | .between _ _ _ _, _ | .exists _ _, _
  | .compareDate _ _ _ _, _ | .raw _, _ => readsAsOne_condition _ _

theorem readsAsOne_items : ∀ (clauses : List Clause) (path : List Nat) (next : Nat),
    ∀ item ∈ Clause.items dialect path next clauses, ReadsAsOne truth item.2
  | [], _, _ => by simp [Clause.items]
  | ⟨connective, predicate⟩ :: rest, path, next => by
      rw [Clause.items, List.forall_mem_cons]
      exact ⟨readsAsOne_signs predicate _, readsAsOne_items rest path (next + 1)⟩

end

mutual

theorem valueOf_signs_isSome : ∀ (predicate : Predicate) (path : List Nat), predicate.Populated →
    (valueOf truth (predicate.signs dialect path)).isSome = true
  | .group members, path, ⟨nonempty, populated⟩ => by
      have each : ReadsEach truth (Clause.items dialect path 0 members) :=
        readsEach_items members path 0 populated
      rw [Predicate.signs, each.within.valueOf_parens]
      exact each.valueOf_isSome (Clause.items_eq_nil_iff.not.mpr nonempty)
  | .compare _ _ _, _, _ | .compareColumns _ _ _, _, _ | .compareQuery _ _ _, _, _
  | .inList _ _ _, _, _ | .inQuery _ _ _, _, _ | .isNull _ _, _, _ | .between _ _ _ _, _, _
  | .exists _ _, _, _ | .compareDate _ _ _ _, _, _ | .raw _, _, _ => rfl

theorem readsEach_items : ∀ (clauses : List Clause) (path : List Nat) (next : Nat),
    Clause.Populated clauses → ReadsEach truth (Clause.items dialect path next clauses)
  | [], _, _, _ => by simp [Clause.items, ReadsEach]
  | ⟨connective, predicate⟩ :: rest, path, next, ⟨first, others⟩ => by
      rw [Clause.items, ReadsEach, List.forall_mem_cons]
      exact ⟨⟨readsAsOne_signs predicate _, valueOf_signs_isSome predicate _ first⟩,
        readsEach_items rest path (next + 1) others⟩

end

/-! Conditions that all have one value -/

mutual

theorem valueOf_signs_uniform {value : Bool} : ∀ (predicate : Predicate) (path : List Nat),
    predicate.Populated → (∀ more, truth (.filter (path ++ more)) = value) →
    valueOf truth (predicate.signs dialect path) = some value
  | .group members, path, ⟨nonempty, populated⟩, uniform => by
      have each : ReadsEach truth (Clause.items dialect path 0 members) :=
        readsEach_items members path 0 populated
      rw [Predicate.signs, each.within.valueOf_parens]
      refine each.valueOf_uniform (Clause.items_eq_nil_iff.not.mpr nonempty) ?_
      exact valueOf_items_uniform members path 0 populated fun index more _ _ =>
        uniform (index :: more)
  | .compare _ _ _, _, _, uniform | .compareColumns _ _ _, _, _, uniform
  | .compareQuery _ _ _, _, _, uniform | .inList _ _ _, _, _, uniform
  | .inQuery _ _ _, _, _, uniform | .isNull _ _, _, _, uniform | .between _ _ _ _, _, _, uniform
  | .exists _ _, _, _, uniform | .compareDate _ _ _ _, _, _, uniform | .raw _, _, _, uniform => by
      have here := uniform []
      rw [List.append_nil] at here
      rw [← here]
      exact valueOf_condition _ _

theorem valueOf_items_uniform {value : Bool} :
    ∀ (clauses : List Clause) (path : List Nat) (next : Nat), Clause.Populated clauses →
    (∀ index more, next ≤ index → index < next + clauses.length →
      truth (.filter (path ++ index :: more)) = value) →
    ∀ item ∈ Clause.items dialect path next clauses, valueOf truth item.2 = some value
  | [], _, _, _, _ => by simp [Clause.items]
  | ⟨connective, predicate⟩ :: rest, path, next, ⟨first, others⟩, uniform => by
      rw [Clause.items, List.forall_mem_cons]
      refine ⟨valueOf_signs_uniform predicate (path ++ [next]) first fun more => ?_,
        valueOf_items_uniform rest path (next + 1) others fun index more after before => ?_⟩
      · rw [List.append_assoc]
        exact uniform next more (Nat.le_refl next) (by simp)
      · exact uniform index more (by omega) (by rw [List.length_cons]; omega)

end

end Values

/-! Whole lists -/

section Lists

variable {dialect : Dialect} {truth : Place → Bool} {front back wheres : List Clause}
  {clause : Clause} {predicate : Predicate}

/-- A list splits in front of each OR. -/
theorem Clause.passes_split (populated : Clause.Populated (front ++ clause :: back))
    (nonempty : front ≠ []) (alternative : clause.connective = .or) (path : List Nat)
    (next : Nat) :
    Passes truth (Clause.signs dialect path next (front ++ clause :: back)) ↔
      Passes truth (Clause.signs dialect path next front) ∨
        Passes truth (Clause.signs dialect path (next + front.length) (clause :: back)) := by
  have each : ReadsEach truth (Clause.items dialect path next (front ++ clause :: back)) :=
    readsEach_items _ path next populated
  obtain ⟨connective, predicate⟩ := clause
  cases alternative
  rw [Clause.items_append, Clause.items] at each
  rw [Clause.signs, Clause.items_append, Clause.signs, Clause.signs, Clause.items]
  exact each.passes_split (Clause.items_eq_nil_iff.not.mpr nonempty)

theorem Clause.valueOf_uniform {value : Bool} (populated : Clause.Populated wheres)
    (nonempty : wheres ≠ []) (path : List Nat) (next : Nat)
    (uniform : ∀ index more, next ≤ index → index < next + wheres.length →
      truth (.filter (path ++ index :: more)) = value) :
    valueOf truth (Clause.signs dialect path next wheres) = some value := by
  have each : ReadsEach truth (Clause.items dialect path next wheres) :=
    readsEach_items wheres path next populated
  exact each.valueOf_uniform (Clause.items_eq_nil_iff.not.mpr nonempty)
    (valueOf_items_uniform wheres path next populated uniform)

theorem Clause.passes_of_all (populated : Clause.Populated wheres) (path : List Nat) (next : Nat)
    (all : ∀ index more, next ≤ index → index < next + wheres.length →
      truth (.filter (path ++ index :: more)) = true) :
    Passes truth (Clause.signs dialect path next wheres) := by
  by_cases nonempty : wheres = []
  · exact .inl (Clause.signs_eq_nil_iff.mpr nonempty)
  · exact .inr (Clause.valueOf_uniform populated nonempty path next all)

/-- A group holds where its members pass. -/
theorem Clause.value_group {members : List Clause} (populated : (Predicate.group members).Populated)
    (path : List Nat) :
    valueOf truth ((Predicate.group members).signs dialect path) = some true ↔
      Passes truth (Clause.signs dialect path 0 members) := by
  have each : ReadsEach truth (Clause.items dialect path 0 members) :=
    readsEach_items members path 0 populated.2
  rw [Predicate.signs, each.within.valueOf_parens, Clause.signs,
    each.passes_iff (Clause.items_eq_nil_iff.not.mpr populated.1)]

/-- Behind a list without OR, a predicate that is added with AND narrows all of it. -/
theorem Clause.passes_narrowed (populated : Clause.Populated (wheres ++ [⟨.and, predicate⟩]))
    (joined : Conjoined (wheres.map Clause.connective)) (path : List Nat) (next : Nat) :
    Passes truth (Clause.signs dialect path next (wheres ++ [⟨.and, predicate⟩])) ↔
      Passes truth (Clause.signs dialect path next wheres) ∧
        valueOf truth (predicate.signs dialect (path ++ [next + wheres.length])) = some true := by
  have each : ReadsEach truth (Clause.items dialect path next (wheres ++ [⟨.and, predicate⟩])) :=
    readsEach_items _ path next populated
  have before : ReadsEach truth (Clause.items dialect path next wheres) :=
    readsEach_items wheres path next (Clause.populated_append.mp populated).1
  rw [Clause.signs, each.passes_conjoined, Clause.signs, before.passes_conjoined,
    Clause.items_append, List.forall_mem_append, Clause.items, Clause.items,
    List.forall_mem_singleton]
  · rwa [Clause.connectives_items]
  · rw [Clause.connectives_items, List.map_append]
    exact joined.append (by simp)

/-- Where the list has an OR, what stands in front of it passes without the predicate. -/
theorem Clause.passes_unnarrowed (populated : Clause.Populated (wheres ++ [⟨.and, predicate⟩]))
    (several : ¬Conjoined (wheres.map Clause.connective))
    (all : ∀ index more, index < wheres.length → truth (.filter (index :: more)) = true) :
    Passes truth (Clause.signs dialect [] 0 (wheres ++ [⟨.and, predicate⟩])) := by
  obtain ⟨front, clause, back, rfl, nonempty, alternative⟩ := exists_split_of_not_conjoined several
  rw [List.append_assoc, List.cons_append] at populated ⊢
  rw [Clause.passes_split populated nonempty alternative]
  refine .inl (Clause.passes_of_all (Clause.populated_append.mp populated).1 [] 0 ?_)
  intro index more _ before
  refine all index more ?_
  rw [List.length_append]
  omega

end Lists

end SqlToolkit
