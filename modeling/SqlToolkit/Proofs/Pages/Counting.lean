import Mathlib
import SqlToolkit.Proofs.Pages.Windows
import SqlToolkit.Proofs.Placement.Requests
import SqlToolkit.Connection.Database
/-!
The count for the pages of a result. It leaves the builder's own order and window out, but not those
of a union: the count of a chain is that of the chain without any order and window just if nothing
was asked for behind a branch.
-/

namespace SqlToolkit

/-! How long a text is with a window -/

/-- What the parts of a text take up, each with the blank behind it. -/
def partsLength (parts : List String) : Nat :=
  ((parts.filter (· ≠ "")).map fun part => part.length + 1).sum

theorem partsLength_append (first second : List String) :
    partsLength (first ++ second) = partsLength first + partsLength second := by
  simp [partsLength]

theorem partsLength_cons (part : String) (rest : List String) :
    partsLength (part :: rest) = (if part = "" then 0 else part.length + 1) + partsLength rest := by
  by_cases blank : part = "" <;> simp [partsLength, blank]

theorem partsLength_pos_iff {parts : List String} :
    0 < partsLength parts ↔ ∃ part ∈ parts, part ≠ "" := by
  induction parts with
  | nil => simp [partsLength]
  | cons part rest ih =>
      rw [partsLength_cons]
      by_cases blank : part = ""
      · simp [blank, ih]
      · simp [blank]

/-- There is no blank behind the last part. -/
theorem length_joinParts (parts : List String) :
    (joinParts parts).length = partsLength parts - 1 := by
  unfold joinParts partsLength
  induction parts.filter (· ≠ "") with
  | nil => rfl
  | cons part rest ih =>
      cases rest with
      | nil => simp
      | cons next more =>
          rw [String.intercalate_cons_cons, String.length_append, String.length_append, ih]
          have blank : " ".length = 1 := rfl
          simp only [List.map_cons, List.sum_cons]
          omega

theorem length_joinParts_append_lt {parts more : List String} (some : ∃ part ∈ parts, part ≠ "")
    (added : ∃ part ∈ more, part ≠ "") :
    (joinParts parts).length < (joinParts (parts ++ more)).length := by
  have before := partsLength_pos_iff.mpr some
  have behind := partsLength_pos_iff.mpr added
  rw [length_joinParts, length_joinParts, partsLength_append]
  omega

/-- A longer part makes a longer text. -/
theorem length_joinParts_cons_lt {short long : String} (longer : short.length < long.length)
    (front rest : List String) :
    (joinParts (front ++ short :: rest)).length < (joinParts (front ++ long :: rest)).length := by
  have written : long ≠ "" := by
    rintro rfl
    simp at longer
  rw [length_joinParts, length_joinParts, partsLength_append, partsLength_append, partsLength_cons,
    partsLength_cons, if_neg written]
  split <;> omega

namespace Dialect

variable {dialect : Dialect}

theorem windowClauses_blank_iff (window : Window) :
    (∀ clause ∈ dialect.windowClauses window, clause = "") ↔ window = {} := by
  obtain ⟨orders, limit, offset⟩ := window
  constructor
  · intro blank
    simp only [windowClauses, List.forall_mem_cons] at blank
    obtain ⟨ordered, limited, begun, -⟩ := blank
    have unordered : orders = [] := by
      by_contra some
      simp [orderClause, some] at ordered
    have unlimited : limit = none := by
      cases limit with
      | none => rfl
      | some limit => simp [limitClause] at limited
    have whole : offset = none := by
      cases offset with
      | none => rfl
      | some offset => simp [offsetClause] at begun
    rw [unordered, unlimited, whole]
  · intro empty
    cases empty
    simp [windowClauses, orderClause, limitClause, offsetClause]

theorem length_united_lt {main : String} {branches : List String} {window : Window}
    (some : ∃ branch ∈ branches, branch ≠ "") (framed : window ≠ {}) :
    (dialect.united main branches {}).length < (dialect.united main branches window).length := by
  have clauses : ∃ clause ∈ dialect.windowClauses window, clause ≠ "" := by
    simpa using mt (windowClauses_blank_iff window).mp framed
  have several : branches ≠ [] := by
    rintro rfl
    simp at some
  have plain : joinParts (branches ++ dialect.windowClauses {}) = joinParts branches := by
    simp [joinParts, windowClauses, orderClause, limitClause, offsetClause]
  unfold united
  rw [if_neg several, if_neg several, plain]
  exact length_joinParts_cons_lt (length_joinParts_append_lt some clauses)
    [dialect.unionSide main] []

theorem length_locked_lt {short long : String} (longer : short.length < long.length)
    (lock : Option Lock) :
    (dialect.locked short lock).length < (dialect.locked long lock).length := by
  cases lock with
  | none => exact longer
  | some lock => exact length_joinParts_cons_lt longer [] [dialect.lockClause lock]

theorem length_select_lt {query : Query} (some : query.unions ≠ [])
    (framed : query.unionWindow ≠ {}) :
    (dialect.select { query with unionWindow := {} }).length < (dialect.select query).length := by
  obtain ⟨columns, distinct, table, joins, wheres, groups, havings, window, unions, unionWindow,
    lock, aggregate⟩ := query
  have branches : ∃ branch ∈ dialect.branches unions, branch ≠ "" := by
    obtain ⟨⟨first, keepsDuplicates⟩, rest, rfl⟩ := List.exists_cons_of_ne_nil some
    rw [Dialect.branches]
    refine ⟨_, .head _, ?_⟩
    cases keepsDuplicates <;> simp
  rw [select, select]
  exact length_locked_lt (length_united_lt branches framed) lock

end Dialect

namespace Builder

/-! What the count asks -/

/-- The statement that counts the rows of all pages. -/
def countStatement (builder : Builder) : Statement :=
  let builder := builder.unwindowed
  if builder.query.groups = [] then
    ⟨builder.dialect.select (builder.aggregate "count" ["*"]).query,
      (builder.aggregate "count" ["*"]).bindings.flatten⟩
  else
    ⟨"SELECT COUNT(*) AS aggregate FROM (" ++ builder.dialect.select builder.query ++ ") AS " ++
      builder.dialect.quoted "aggregate_table", builder.bindings.flatten⟩

/-- NULL is no number, so that it need not be told apart first. -/
theorem integer_of_head (rows : List Row) :
    ((rows.head?.bind Row.first?).filter fun value => !value.isNull).bind Value.integer? =
      leadingInteger? rows := by
  unfold leadingInteger?
  cases rows with
  | nil => rfl
  | cons row rest =>
      obtain ⟨columns, values⟩ := row
      cases values with
      | nil => rfl
      | cons value more => cases value <;> rfl

theorem countForPages_eq {builder : Builder} (accepted : builder.fault = none) :
    builder.countForPages = .send (.fetch false builder.countStatement) fun rows =>
      .result ((leadingInteger? rows).getD 0) := by
  have aside : builder.unwindowed.fault = none := accepted
  unfold countForPages countStatement
  dsimp only
  by_cases single : builder.unwindowed.query.groups = []
  · rw [if_pos single, if_pos single, count, aggregateValue, get, statement, sql, sound,
      show (builder.unwindowed.aggregate "count" ["*"]).fault = none from aside]
    simp only [← integer_of_head]
    rfl
  · rw [if_neg single, if_neg single, countGroups, sql, sound, aside]
    rfl

theorem countForPages_sends_iff {builder : Builder} {request : Request}
    (accepted : builder.fault = none) :
    builder.countForPages.Sends request ↔ request = .fetch false builder.countStatement := by
  rw [countForPages_eq accepted]
  constructor
  · intro sent
    cases sent with
    | now => rfl
    | later answer rest => cases rest
  · rintro rfl
    exact .now

/-- What is bound to an order is no part of the text of the count. -/
theorem countStatement_reframe_sql (bare : Builder) (window unionWindow : Window)
    (order union other : List Value) :
    (bare.reframe window unionWindow order union).countStatement.sql =
      (bare.reframe {} unionWindow [] other).countStatement.sql := by
  unfold countStatement
  dsimp only
  by_cases single : bare.query.groups = []
  · simp [single, reframe, unwindowed, aggregate]
  · simp [single, reframe, unwindowed]

/-- With an order or a window behind its branches a builder counts by a longer text. -/
theorem length_countStatement_lt {builder : Builder} (some : builder.query.unions ≠ [])
    (framed : builder.query.unionWindow ≠ {}) :
    (builder.change fun query => { query with unionWindow := {} }).countStatement.sql.length <
      builder.countStatement.sql.length := by
  unfold countStatement
  dsimp only
  by_cases single : builder.query.groups = []
  · have counted := @Dialect.length_select_lt builder.dialect
      (builder.unwindowed.aggregate "count" ["*"]).query some framed
    simpa [unwindowed, change, single, aggregate] using counted
  · have counted := @Dialect.length_select_lt builder.dialect builder.unwindowed.query some framed
    simpa [unwindowed, change, single] using counted

/-- The count sees no more of the windows of a builder than that of a union. -/
theorem Frames.countStatement_eq_iff {builder bare : Builder} (frames : builder.Frames bare) :
    builder.countStatement = bare.countStatement ↔ builder.query.unionWindow = {} := by
  obtain ⟨window, unionWindow, order, union, rfl, single, unordered, plain⟩ := frames
  have unframed : bare =
      bare.reframe bare.query.window {} bare.bindings.order bare.bindings.union := by
    rw [← plain, reframe_self]
  constructor
  · intro same
    by_contra framed
    have some : bare.query.unions ≠ [] := fun none => framed (single none)
    have longer :=
      @length_countStatement_lt (bare.reframe window unionWindow order union) some framed
    have shown : ((bare.reframe window unionWindow order union).change fun query =>
        { query with unionWindow := {} }).countStatement.sql = bare.countStatement.sql := by
      conv_rhs => rw [unframed, countStatement_reframe_sql _ _ _ _ _ []]
      exact countStatement_reframe_sql bare window {} order union []
    rw [shown, same] at longer
    exact Nat.lt_irrefl _ longer
  · intro empty
    have empty : unionWindow = {} := empty
    subst empty
    rw [unordered rfl]
    conv_rhs => rw [unframed]
    rfl

/-! The count on the builder itself -/

/-- Gives a builder a window and what is bound to its order. -/
def rewindowed (builder : Builder) (window : Window) (order : List Value) : Builder :=
  { builder with
    query := { builder.query with window }
    bindings := builder.bindings.set .order order }

theorem rewindowed_unwindowed (builder : Builder) :
    builder.unwindowed.rewindowed builder.query.window builder.bindings.order = builder :=
  builder.reframe_self

/-- Counts by a builder that is changed for the count: its window and what is bound to its order
are taken out of it, and put back when the count has ended in a number or in an error. -/
def countInPlace (perform : Program Int → EStateM Error σ Int) :
    EStateM Error (Builder × σ) Int := fun (builder, state) =>
  let aside := builder.unwindowed
  let counting := if aside.query.groups = [] then aside.count "*" else aside.countGroups
  match perform counting state with
  | .ok total after =>
      .ok total (aside.rewindowed builder.query.window builder.bindings.order, after)
  | .error error after =>
      .error error (aside.rewindowed builder.query.window builder.bindings.order, after)

/-- The count ends as a count of a copy does, and leaves the builder as it was. -/
def KeptByCount (builder : Builder) : Prop :=
  ∀ (σ : Type) (perform : Program Int → EStateM Error σ Int) (state : σ),
    countInPlace perform (builder, state) =
      match perform builder.countForPages state with
      | .ok total after => .ok total (builder, after)
      | .error error after => .error error (builder, after)

theorem kept_by_count (builder : Builder) : builder.KeptByCount := by
  intro σ perform state
  unfold countInPlace
  dsimp only
  rw [rewindowed_unwindowed]
  rfl

end Builder

section Chains

variable {dialect : Dialect} {steps : List Step}

theorem Builder.frames_chain (accepted : (({ dialect } : Builder).run steps).fault = none) :
    (({ dialect } : Builder).run steps).Frames (({ dialect } : Builder).run (bareSteps steps)) :=
  .run steps (.refl _ rfl) accepted

theorem countForPages_bare_iff (accepted : (({ dialect } : Builder).run steps).fault = none) :
    (∀ request, (({ dialect } : Builder).run steps).countForPages.Sends request ↔
      (({ dialect } : Builder).run (bareSteps steps)).countForPages.Sends request) ↔
    (({ dialect } : Builder).run steps).query.unionWindow = {} := by
  have frames := Builder.frames_chain accepted
  have bareAccepted := frames.fault.symm.trans accepted
  rw [← frames.countStatement_eq_iff]
  simp only [Builder.countForPages_sends_iff accepted, Builder.countForPages_sends_iff bareAccepted]
  constructor
  · intro same
    exact (Request.fetch.inj ((same _).mp rfl)).2
  · intro same request
    rw [same]

end Chains

/-- Two chains that differ in calls for an order or a window alone: both count by the statement of
the chain without such calls, just if neither has asked for any behind a branch. The count leaves
both builders as they were, whatever becomes of it. -/
theorem count_without_windows_iff (dialect : Dialect) (first second : List Step)
    (same : bareSteps first = bareSteps second)
    (firstAccepted : (({ dialect } : Builder).run first).fault = none)
    (secondAccepted : (({ dialect } : Builder).run second).fault = none) :
    let one := ({ dialect } : Builder).run first
    let other := ({ dialect } : Builder).run second
    let bare := ({ dialect } : Builder).run (bareSteps first)
    ((∀ request, (one.countForPages.Sends request ↔ bare.countForPages.Sends request) ∧
        (other.countForPages.Sends request ↔ bare.countForPages.Sends request)) ↔
      one.query.unionWindow = {} ∧ other.query.unionWindow = {}) ∧
    one.KeptByCount ∧ other.KeptByCount := by
  refine ⟨?_, Builder.kept_by_count _, Builder.kept_by_count _⟩
  rw [forall_and, countForPages_bare_iff firstAccepted, same, countForPages_bare_iff secondAccepted]

/-- An order and a window in front of a branch, and predicates and groups around them. -/
def windowedSteps : List Step :=
  [.table (.named "users"), .orderBy (.named "name") .ascending, .groupBy [.named "name"],
    .orderByRaw "FIELD(name, ?)" [.text "root"], .limit 5, .offset 10,
    .union true [.table (.named "guests"), .limit 1]]

def plainSteps : List Step :=
  [.table (.named "users"), .groupBy [.named "name"],
    .union true [.table (.named "guests"), .limit 1]]

theorem windowed_count_is_plain :
    bareSteps windowedSteps = bareSteps plainSteps ∧
    (∀ request,
      ((({ dialect := Vendor.mysql.dialect } : Builder).run windowedSteps).countForPages.Sends
          request ↔
        (({ dialect := Vendor.mysql.dialect } : Builder).run
          (bareSteps windowedSteps)).countForPages.Sends request) ∧
      ((({ dialect := Vendor.mysql.dialect } : Builder).run plainSteps).countForPages.Sends
          request ↔
        (({ dialect := Vendor.mysql.dialect } : Builder).run
          (bareSteps windowedSteps)).countForPages.Sends request)) :=
  ⟨rfl, (count_without_windows_iff Vendor.mysql.dialect windowedSteps plainSteps rfl rfl rfl).1.mpr
    ⟨rfl, rfl⟩⟩

/-- An order behind a branch is asked for in the count. -/
theorem union_order_in_count :
    let union := ({ dialect := Vendor.sqlite.dialect } : Builder).run
      [.table (.named "users"), .union false [.table (.named "guests")]]
    let ordered := ({ dialect := Vendor.sqlite.dialect } : Builder).run
      [.table (.named "users"), .union false [.table (.named "guests")],
        .orderBy (.named "id") .ascending]
    ordered.fault = none ∧ union.fault = none ∧
      ∃ request, ordered.countForPages.Sends request ∧ ¬union.countForPages.Sends request := by
  refine ⟨rfl, rfl, _, (Builder.countForPages_sends_iff rfl).mpr rfl, fun sent => ?_⟩
  have same := (Request.fetch.inj ((Builder.countForPages_sends_iff rfl).mp sent)).2
  exact absurd (congrArg Statement.sql same) (by decide +kernel)

end SqlToolkit
