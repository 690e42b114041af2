import Mathlib.Logic.Basic
import SqlToolkit.Query.Basic
/-!
Conditions as a reader of SQL takes them: AND binds tighter than OR, and what stands in parentheses
is one condition. A condition is known by its place in the query, and its own text is not opened.
A row of conditions splits at each OR, and a part without OR holds if all of its conditions do.
-/

namespace SqlToolkit

/-- Where a query has a condition: in one of its joins, or among its predicates, by the way through
the groups that it stands in. -/
inductive Place where
  | joined (join condition : Nat)
  | filter (path : List Nat)
  deriving DecidableEq, Repr

/-- What a clause of conditions is made of. -/
inductive Sign where
  | condition (place : Place) (text : String)
  | connective (connective : Connective)
  | opening
  | closing
  deriving DecidableEq, Repr

def Sign.text : Sign → String
  | condition _ text => text
  | connective chained => " " ++ chained.text ++ " "
  | opening => "("
  | closing => ")"

def spell (signs : List Sign) : String :=
  String.join (signs.map Sign.text)

/-- A clause behind its keyword; one without signs is left out. -/
def spellClause (word : String) (signs : List Sign) : String :=
  if signs = [] then "" else word ++ " " ++ spell signs

/-! Reading -/

/-- What is read between two parentheses: whether an alternative that has ended holds, whether the
one that is being read holds so far, and whether a condition has to follow. -/
structure Level where
  settled : Bool := false
  running : Bool := true
  awaiting : Bool := true
  deriving DecidableEq, Repr

namespace Level

def holds (level : Level) : Bool :=
  level.settled || level.running

def take (level : Level) (value : Bool) : Level :=
  { level with running := level.running && value, awaiting := false }

/-- AND goes on with an alternative, OR ends it. -/
def link (level : Level) : Connective → Level
  | .and => { level with awaiting := true }
  | .or => { settled := level.holds }

/-- The value of what is read, if it may end here. -/
def value? (level : Level) : Option Bool :=
  if level.awaiting then none else some level.holds

end Level

section Reader

variable (truth : Place → Bool)

/-- Reads one sign within the parentheses that are open, the innermost first. -/
def Sign.read : List Level → Sign → Option (List Level)
  | level :: outer, .condition place _ =>
      if level.awaiting then some (level.take (truth place) :: outer) else none
  | level :: outer, .connective chained =>
      if level.awaiting then none else some (level.link chained :: outer)
  | level :: outer, .opening => if level.awaiting then some ({} :: level :: outer) else none
  | inner :: level :: outer, .closing =>
      inner.value?.map fun value => level.take value :: outer
  | _, _ => none

def readSigns (levels : List Level) (signs : List Sign) : Option (List Level) :=
  signs.foldlM (Sign.read truth) levels

/-- Whether a clause holds, if its signs are a clause. -/
def valueOf (signs : List Sign) : Option Bool :=
  match readSigns truth [{}] signs with
  | some [level] => level.value?
  | _ => none

/-- The clause lets a row pass; one that is left out lets all rows pass. -/
def Passes (signs : List Sign) : Prop :=
  signs = [] ∨ valueOf truth signs = some true

instance (signs : List Sign) : Decidable (Passes truth signs) :=
  inferInstanceAs (Decidable (_ ∨ _))

end Reader

/-- OR between conditions, AND within a group and behind it. -/
example :
    let truth (place : Place) : Bool := place ≠ .filter [2]
    valueOf truth [.condition (.filter [0]) "a", .connective .or, .condition (.filter [1]) "b",
        .connective .and, .condition (.filter [2]) "c"] = some true ∧
      valueOf truth [.opening, .condition (.filter [0]) "a", .connective .or,
        .condition (.filter [1]) "b", .closing, .connective .and, .condition (.filter [2]) "c"] =
          some false := by
  decide

/-! Rows of conditions -/

/-- Conditions one behind the other; the connective of the first is not written. -/
def chainSigns : List (Connective × List Sign) → List Sign
  | [] => []
  | (_, first) :: rest =>
      first ++ rest.flatMap fun (connective, signs) => .connective connective :: signs

/-- No condition but the first is joined by OR. -/
def Conjoined (connectives : List Connective) : Prop :=
  ∀ connective ∈ connectives.tail, connective = .and

instance (connectives : List Connective) : Decidable (Conjoined connectives) :=
  inferInstanceAs (Decidable (∀ _ ∈ _, _))

theorem Conjoined.of_forall {connectives : List Connective}
    (all : ∀ connective ∈ connectives, connective = .and) : Conjoined connectives :=
  fun connective member => all connective (List.mem_of_mem_tail member)

theorem Conjoined.append {left right : List Connective} (joined : Conjoined left)
    (others : ∀ connective ∈ right, connective = .and) : Conjoined (left ++ right) := by
  cases left with
  | nil => exact .of_forall others
  | cons first rest => exact List.forall_mem_append.mpr ⟨joined, others⟩

/-- Where a list has more than one alternative, it splits in front of an OR. -/
theorem exists_split_of_not_conjoined {α : Type} {connective : α → Connective} {items : List α}
    (several : ¬Conjoined (items.map connective)) :
    ∃ front next back, items = front ++ next :: back ∧ front ≠ [] ∧ connective next = .or := by
  have member : ∃ chained ∈ (items.map connective).tail, chained ≠ .and := by
    simpa [Conjoined] using several
  obtain ⟨_, member, other⟩ := member
  rw [← List.map_tail] at member
  obtain ⟨next, behind, rfl⟩ := List.mem_map.mp member
  cases items with
  | nil => simp at behind
  | cons first rest =>
      obtain ⟨front, back, rfl⟩ := List.append_of_mem behind
      refine ⟨first :: front, next, back, rfl, List.cons_ne_nil _ _, ?_⟩
      cases chained : connective next with
      | and => exact absurd chained other
      | or => rfl

/-! The value of a row by the values of its conditions; what cannot be read has none -/

/-- What is read of a row behind a condition. -/
def Level.follow (level : Level) : List (Connective × Option Bool) → Option Level
  | [] => some level
  | (connective, value) :: rest =>
      value.bind fun value => ((level.link connective).take value).follow rest

def rowValue : List (Connective × Option Bool) → Option Bool
  | [] => none
  | (_, first) :: rest =>
      first.bind fun value => ((({} : Level).take value).follow rest).map Level.holds

namespace Level

theorem follow_append (level : Level) (front back : List (Connective × Option Bool)) :
    level.follow (front ++ back) =
      (level.follow front).bind fun reached => reached.follow back := by
  induction front generalizing level with
  | nil => rfl
  | cons item front ih =>
      obtain ⟨connective, value⟩ := item
      cases value with
      | none => rfl
      | some value => exact ih _

theorem awaiting_follow {level reached : Level} {rest : List (Connective × Option Bool)}
    (begun : level.awaiting = false) (followed : level.follow rest = some reached) :
    reached.awaiting = false := by
  induction rest generalizing level with
  | nil =>
      cases followed
      exact begun
  | cons item rest ih =>
      obtain ⟨connective, value⟩ := item
      obtain ⟨value, -, followed⟩ := Option.bind_eq_some_iff.mp followed
      exact ih rfl followed

/-- An alternative that has ended counts for the value, and for nothing else. -/
theorem follow_settled (level : Level) (before : Bool) (rest : List (Connective × Option Bool)) :
    ({ level with settled := before || level.settled } : Level).follow rest =
      (level.follow rest).map fun reached =>
        { reached with settled := before || reached.settled } := by
  induction rest generalizing level with
  | nil => rfl
  | cons item rest ih =>
      obtain ⟨connective, value⟩ := item
      cases value with
      | none => rfl
      | some value =>
          rw [follow, follow, Option.bind_some, Option.bind_some, ← ih]
          cases connective with
          | and => rfl
          | or => simp only [link, take, holds, Bool.or_assoc]

/-- Behind the last OR, the conditions have to hold together with what runs. -/
theorem follow_conjoined {level : Level} {rest : List (Connective × Option Bool)}
    (alone : level.settled = false) (joined : ∀ item ∈ rest, item.1 = .and) :
    (level.follow rest).map holds = some true ↔
      level.running = true ∧ ∀ item ∈ rest, item.2 = some true := by
  induction rest generalizing level with
  | nil => simp [follow, holds, alone]
  | cons item rest ih =>
      obtain ⟨connective, value⟩ := item
      obtain ⟨rfl, others⟩ := List.forall_mem_cons.mp joined
      cases value with
      | none => simp [follow]
      | some value =>
          have linked : ((level.link .and).take value).settled = false := alone
          rw [follow, Option.bind_some, ih linked others]
          simp [link, take, and_assoc]

theorem follow_isSome_iff (level : Level) (rest : List (Connective × Option Bool)) :
    (level.follow rest).isSome = true ↔ ∀ item ∈ rest, item.2.isSome = true := by
  induction rest generalizing level with
  | nil => simp [follow]
  | cons item rest ih =>
      obtain ⟨connective, value⟩ := item
      cases value with
      | none => simp [follow]
      | some value =>
          rw [follow, Option.bind_some, ih]
          simp

/-- Conditions that all have one value give it to the row. -/
theorem follow_uniform {level : Level} {value : Bool} {rest : List (Connective × Option Bool)}
    (settled : level.settled = true → value = true) (running : level.running = value)
    (uniform : ∀ item ∈ rest, item.2 = some value) :
    (level.follow rest).map holds = some value := by
  induction rest generalizing level with
  | nil =>
      cases value <;> simp_all [follow, holds]
  | cons item rest ih =>
      obtain ⟨connective, single⟩ := item
      obtain ⟨rfl, others⟩ := List.forall_mem_cons.mp uniform
      rw [follow, Option.bind_some]
      -- An alternative that has ended counts only where it holds, and then all hold.
      refine ih ?_ ?_ others
      · intro ended
        cases connective <;> cases value <;> simp_all [link, take, holds]
      · cases connective <;> simp [link, take, running]

end Level

section Values

variable {items front back : List (Connective × Option Bool)}

/-- A row splits in front of each OR. -/
theorem rowValue_split (nonempty : front ≠ []) (value : Option Bool) :
    rowValue (front ++ (.or, value) :: back) =
      (rowValue front).bind fun left =>
        (rowValue ((.or, value) :: back)).map fun right => left || right := by
  obtain ⟨⟨connective, first⟩, rest, rfl⟩ := List.exists_cons_of_ne_nil nonempty
  cases first with
  | none => rfl
  | some first =>
      simp only [List.cons_append, rowValue, Option.bind_some, Level.follow_append]
      cases (({} : Level).take first).follow rest with
      | none => rfl
      | some reached =>
          cases value with
          | none => rfl
          | some value =>
              -- Behind the OR goes on what a new row would be, but for what is settled by then.
              have begun : (reached.link .or).take value =
                  { ({} : Level).take value with
                    settled := reached.holds || (({} : Level).take value).settled } := by
                simp [Level.link, Level.take]
              simp only [Option.bind_some, Option.map_some, Level.follow, begun,
                Level.follow_settled]
              cases (({} : Level).take value).follow back with
              | none => rfl
              | some last => simp [Level.holds, Bool.or_assoc]

/-- A row without OR holds if all of its conditions do. -/
theorem rowValue_conjoined (nonempty : items ≠ []) (joined : Conjoined (items.map Prod.fst)) :
    rowValue items = some true ↔ ∀ item ∈ items, item.2 = some true := by
  obtain ⟨⟨connective, first⟩, rest, rfl⟩ := List.exists_cons_of_ne_nil nonempty
  have behind : ∀ item ∈ rest, item.1 = .and := fun item member =>
    joined item.1 (List.mem_map_of_mem member)
  cases first with
  | none => simp [rowValue]
  | some first =>
      have alone : (({} : Level).take first).settled = false := rfl
      rw [rowValue, Option.bind_some, Level.follow_conjoined alone behind]
      simp [Level.take]

theorem rowValue_uniform {value : Bool} (nonempty : items ≠ [])
    (uniform : ∀ item ∈ items, item.2 = some value) : rowValue items = some value := by
  obtain ⟨⟨connective, first⟩, rest, rfl⟩ := List.exists_cons_of_ne_nil nonempty
  obtain ⟨rfl, others⟩ := List.forall_mem_cons.mp uniform
  exact Level.follow_uniform nofun rfl others

/-- A row can be read if all of its conditions can, and only then. -/
theorem rowValue_isSome_iff (nonempty : items ≠ []) :
    (rowValue items).isSome = true ↔ ∀ item ∈ items, item.2.isSome = true := by
  obtain ⟨⟨connective, first⟩, rest, rfl⟩ := List.exists_cons_of_ne_nil nonempty
  cases first with
  | none => simp [rowValue]
  | some first => simp [rowValue, Level.follow_isSome_iff]

end Values

/-! Rows of signs -/

section Signs

variable {truth : Place → Bool} {signs : List Sign}

theorem readSigns_append (levels : List Level) (left right : List Sign) :
    readSigns truth levels (left ++ right) =
      (readSigns truth levels left).bind fun reached => readSigns truth reached right :=
  List.foldlM_append

theorem readSigns_cons (levels : List Level) (sign : Sign) (signs : List Sign) :
    readSigns truth levels (sign :: signs) =
      (sign.read truth levels).bind fun reached => readSigns truth reached signs :=
  List.foldlM_cons

/-- Signs that are read as one condition wherever a condition may stand. -/
def ReadsAsOne (truth : Place → Bool) (signs : List Sign) : Prop :=
  ∀ (level : Level) (outer : List Level), level.awaiting = true →
    readSigns truth (level :: outer) signs =
      (valueOf truth signs).map fun value => level.take value :: outer

/-- Signs that are read on a level of their own. -/
def ReadsWithin (truth : Place → Bool) (signs : List Sign) : Prop :=
  ∃ last : Option Level, ∀ outer,
    readSigns truth ({} :: outer) signs = last.map fun level => level :: outer

theorem valueOf_condition (place : Place) (text : String) :
    valueOf truth [.condition place text] = some (truth place) :=
  rfl

theorem readsAsOne_condition (place : Place) (text : String) :
    ReadsAsOne truth [.condition place text] := by
  intro level outer awaiting
  rw [valueOf_condition]
  simp [readSigns, Sign.read, awaiting]

theorem valueOf_eq {last : Option Level}
    (read : readSigns truth [{}] signs = last.map fun level => [level]) :
    valueOf truth signs = last.bind Level.value? := by
  rw [valueOf, read]
  cases last <;> rfl

/-- What has a value passes by its value. -/
theorem passes_of_value {value : Bool} (read : valueOf truth signs = some value) :
    Passes truth signs ↔ value = true := by
  have some : signs ≠ [] := by
    rintro rfl
    cases read
  rw [Passes, read, or_iff_right some, Option.some_inj]

theorem not_passes_of_value (read : valueOf truth signs = some false) : ¬Passes truth signs := by
  rw [passes_of_value read]
  exact Bool.false_ne_true

theorem ReadsWithin.read_parens (within : ReadsWithin truth signs) {level : Level}
    (awaiting : level.awaiting = true) (outer : List Level) :
    readSigns truth (level :: outer) (.opening :: signs ++ [.closing]) =
      (valueOf truth signs).map fun value => level.take value :: outer := by
  obtain ⟨last, read⟩ := within
  have opened : Sign.opening.read truth (level :: outer) = some ({} :: level :: outer) := by
    simp [Sign.read, awaiting]
  rw [List.cons_append, readSigns_cons, opened, Option.bind_some, readSigns_append, read,
    valueOf_eq (read [])]
  cases last with
  | none => rfl
  | some inner => simp [readSigns, Sign.read]

/-- Parentheses do not change the value of what they enclose. -/
theorem ReadsWithin.valueOf_parens (within : ReadsWithin truth signs) :
    valueOf truth (.opening :: signs ++ [.closing]) = valueOf truth signs := by
  have awaiting : ({} : Level).awaiting = true := rfl
  have read := within.read_parens awaiting []
  generalize valueOf truth signs = value at read ⊢
  rw [valueOf, read]
  cases value with
  | none => rfl
  | some value => cases value <;> rfl

theorem ReadsWithin.parens (within : ReadsWithin truth signs) :
    ReadsAsOne truth (.opening :: signs ++ [.closing]) := by
  intro level outer awaiting
  rw [within.valueOf_parens]
  exact within.read_parens awaiting outer

section Rows

variable {items : List (Connective × List Sign)}

/-- The conditions of a row by their values. -/
def judged (truth : Place → Bool) (items : List (Connective × List Sign)) :
    List (Connective × Option Bool) :=
  items.map fun item => (item.1, valueOf truth item.2)

theorem readSigns_behind (ones : ∀ item ∈ items, ReadsAsOne truth item.2) {level : Level}
    (begun : level.awaiting = false) (outer : List Level) :
    readSigns truth (level :: outer)
        (items.flatMap fun (connective, signs) => .connective connective :: signs) =
      (level.follow (judged truth items)).map fun reached => reached :: outer := by
  -- A level between two items expects no condition: the connective opens it for the next item.
  induction items generalizing level with
  | nil => rfl
  | cons item rest ih =>
      obtain ⟨connective, signs⟩ := item
      obtain ⟨one, others⟩ := List.forall_mem_cons.mp ones
      have linked : (Sign.connective connective).read truth (level :: outer) =
          some (level.link connective :: outer) := by
        simp [Sign.read, begun]
      have awaiting : (level.link connective).awaiting = true := by
        cases connective <;> rfl
      rw [List.flatMap_cons, List.cons_append, readSigns_cons, linked, Option.bind_some,
        readSigns_append, one _ _ awaiting, judged, List.map_cons, Level.follow]
      cases valueOf truth signs with
      | none => rfl
      | some value => exact ih others rfl

/-- The first item begins a level, and the others go on with it. -/
theorem readSigns_chain {connective : Connective} {first : List Sign}
    (ones : ∀ item ∈ (connective, first) :: items, ReadsAsOne truth item.2) (outer : List Level) :
    readSigns truth ({} :: outer) (chainSigns ((connective, first) :: items)) =
      ((valueOf truth first).bind fun value =>
        (({} : Level).take value).follow (judged truth items)).map fun level => level :: outer := by
  obtain ⟨one, others⟩ := List.forall_mem_cons.mp ones
  rw [chainSigns, readSigns_append, one _ _ rfl]
  cases valueOf truth first with
  | none => rfl
  | some value => exact readSigns_behind others rfl outer

theorem readsWithin_chain (ones : ∀ item ∈ items, ReadsAsOne truth item.2) :
    ReadsWithin truth (chainSigns items) := by
  cases items with
  | nil => exact ⟨some {}, fun _ => rfl⟩
  | cons item rest => exact ⟨_, readSigns_chain ones⟩

/-- A row has the value of the row of its values. -/
theorem valueOf_chain (ones : ∀ item ∈ items, ReadsAsOne truth item.2) :
    valueOf truth (chainSigns items) = rowValue (judged truth items) := by
  cases items with
  | nil => rfl
  | cons item rest =>
      obtain ⟨connective, first⟩ := item
      rw [valueOf_eq (readSigns_chain ones [])]
      change _ = rowValue ((connective, valueOf truth first) :: judged truth rest)
      rw [rowValue]
      cases valueOf truth first with
      | none => rfl
      | some value =>
          rw [Option.bind_some, Option.bind_some]
          cases followed : (({} : Level).take value).follow (judged truth rest) with
          | none => rfl
          | some last => simp [Level.value?, Level.awaiting_follow rfl followed]

theorem judged_ne_nil (nonempty : items ≠ []) : judged truth items ≠ [] := by
  simpa [judged] using nonempty

/-- Each item of a row is read as one condition. -/
def ReadsEach (truth : Place → Bool) (items : List (Connective × List Sign)) : Prop :=
  ∀ item ∈ items, ReadsAsOne truth item.2 ∧ (valueOf truth item.2).isSome = true

namespace ReadsEach

theorem append {left right : List (Connective × List Sign)} (first : ReadsEach truth left)
    (second : ReadsEach truth right) : ReadsEach truth (left ++ right) :=
  List.forall_mem_append.mpr ⟨first, second⟩

theorem within (each : ReadsEach truth items) : ReadsWithin truth (chainSigns items) :=
  readsWithin_chain fun item member => (each item member).1

theorem valueOf_row (each : ReadsEach truth items) :
    valueOf truth (chainSigns items) = rowValue (judged truth items) :=
  valueOf_chain fun item member => (each item member).1

theorem valueOf_isSome (each : ReadsEach truth items) (nonempty : items ≠ []) :
    (valueOf truth (chainSigns items)).isSome = true := by
  rw [each.valueOf_row, rowValue_isSome_iff (judged_ne_nil nonempty)]
  exact List.forall_mem_map.mpr fun item member => (each item member).2

theorem valueOf_uniform (each : ReadsEach truth items) (nonempty : items ≠ []) {value : Bool}
    (uniform : ∀ item ∈ items, valueOf truth item.2 = some value) :
    valueOf truth (chainSigns items) = some value := by
  rw [each.valueOf_row]
  exact rowValue_uniform (judged_ne_nil nonempty) (List.forall_mem_map.mpr uniform)

theorem passes_iff (each : ReadsEach truth items) (nonempty : items ≠ []) :
    Passes truth (chainSigns items) ↔ valueOf truth (chainSigns items) = some true := by
  obtain ⟨value, read⟩ := Option.isSome_iff_exists.mp (each.valueOf_isSome nonempty)
  rw [passes_of_value read, read, Option.some_inj]

/-- A row passes if all of its items hold. -/
theorem passes_of_all (each : ReadsEach truth items)
    (all : ∀ item ∈ items, valueOf truth item.2 = some true) : Passes truth (chainSigns items) := by
  by_cases nonempty : items = []
  · subst nonempty
    exact .inl rfl
  · exact .inr (each.valueOf_uniform nonempty all)

/-- A row without OR lets a row pass if all of its items do. -/
theorem passes_conjoined (each : ReadsEach truth items)
    (joined : Conjoined (items.map Prod.fst)) :
    Passes truth (chainSigns items) ↔ ∀ item ∈ items, valueOf truth item.2 = some true := by
  by_cases nonempty : items = []
  · subst nonempty
    simp [Passes, chainSigns]
  · have connectives : (judged truth items).map Prod.fst = items.map Prod.fst := by
      simp [judged, Function.comp_def]
    rw [each.passes_iff nonempty, each.valueOf_row,
      rowValue_conjoined (judged_ne_nil nonempty) (connectives ▸ joined)]
    exact List.forall_mem_map

/-- A row splits in front of each OR. -/
theorem passes_split {front back : List (Connective × List Sign)}
    (each : ReadsEach truth (front ++ (.or, signs) :: back)) (nonempty : front ≠ []) :
    Passes truth (chainSigns (front ++ (.or, signs) :: back)) ↔
      Passes truth (chainSigns front) ∨ Passes truth (chainSigns ((.or, signs) :: back)) := by
  obtain ⟨left, right⟩ := List.forall_mem_append.mp each
  have first : ReadsEach truth front := left
  have second : ReadsEach truth ((.or, signs) :: back) := right
  have some : (Connective.or, signs) :: back ≠ [] := List.cons_ne_nil _ _
  obtain ⟨before, readFront⟩ := Option.isSome_iff_exists.mp (first.valueOf_isSome nonempty)
  obtain ⟨behind, readBack⟩ := Option.isSome_iff_exists.mp (second.valueOf_isSome some)
  have whole : judged truth (front ++ (.or, signs) :: back) =
      judged truth front ++ (.or, valueOf truth signs) :: judged truth back :=
    List.map_append
  have rest : judged truth ((.or, signs) :: back) =
      (.or, valueOf truth signs) :: judged truth back := rfl
  rw [each.passes_iff (by simp), first.passes_iff nonempty, second.passes_iff some,
    each.valueOf_row, whole, rowValue_split (judged_ne_nil nonempty), ← rest, ← first.valueOf_row,
    ← second.valueOf_row, readFront, readBack]
  simp

end ReadsEach

end Rows

end Signs

end SqlToolkit
