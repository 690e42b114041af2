import SqlToolkit.Proofs.Pages.Counting
import SqlToolkit.Proofs.Precedence.Predicates
/-!
The window of the last branch of a union, and the window of the union behind it. MySQL encloses the
branches and so keeps the two apart. SQLite and PostgreSQL do not: there it is only what a branch
writes behind its own window that can tell them apart.
-/

namespace SqlToolkit

/-! Texts part by part -/

/-- A part with a blank in front of it; one that is empty is left out. -/
def behindBlank (part : String) : String :=
  if part = "" then "" else " " ++ part

def partsBehind (parts : List String) : String :=
  String.join (parts.map behindBlank)

theorem partsBehind_append (left right : List String) :
    partsBehind (left ++ right) = partsBehind left ++ partsBehind right := by
  rw [partsBehind, List.map_append, String.join_append, partsBehind, partsBehind]

theorem partsBehind_singleton {part : String} (nonempty : part ≠ "") :
    partsBehind [part] = " " ++ part := by
  simp [partsBehind, behindBlank, nonempty]

theorem partsBehind_eq_join (parts : List String) :
    partsBehind parts = String.join ((parts.filter (· ≠ "")).map fun part => " " ++ part) := by
  induction parts with
  | nil => rfl
  | cons part rest ih =>
      rw [partsBehind, List.map_cons, String.join_cons, ← partsBehind, ih, behindBlank]
      by_cases blank : part = ""
      · simp [blank]
      · simp [blank, String.join_cons]

theorem joinParts_cons {first : String} (nonempty : first ≠ "") (rest : List String) :
    joinParts (first :: rest) = first ++ partsBehind rest := by
  rw [joinParts, List.filter_cons_of_pos (by simpa using nonempty), intercalate_cons,
    partsBehind_eq_join]

theorem behindBlank_joinParts (parts : List String) :
    behindBlank (joinParts parts) = partsBehind parts := by
  rw [partsBehind_eq_join, joinParts]
  cases taken : parts.filter (· ≠ "") with
  | nil => rfl
  | cons first rest =>
      have member : first ∈ parts.filter (· ≠ "") := by
        rw [taken]
        exact List.mem_cons_self
      have nonempty : first ≠ "" := of_decide_eq_true (List.mem_filter.mp member).2
      rw [intercalate_cons, behindBlank, if_neg (by simp [nonempty]), List.map_cons,
        String.join_cons, String.append_assoc]

namespace Dialect

variable (dialect : Dialect)

/-- What stands around a select of a union. -/
def sideOpening : String :=
  if dialect.vendor = .mysql then "(" else ""

def sideClosing : String :=
  if dialect.vendor = .mysql then ")" else ""

/-- A window as it is written, with the blank in front of it. -/
def windowText (window : Window) : String :=
  partsBehind (dialect.windowClauses window)

def lockText : Option Lock → String
  | some lock => behindBlank (dialect.lockClause lock)
  | none => ""

/-- What a select has in front of its own window. -/
def beforeWindow (query : Query) : String :=
  (if query.unions = [] then "" else dialect.sideOpening) ++
  joinParts [dialect.projection query.distinct query.columns query.aggregate,
    dialect.fromClause query.table, dialect.joins query.joins, dialect.whereClause query.wheres,
    dialect.groupClause query.groups, headed "HAVING" (dialect.clauses query.havings)]

/-- What a select has behind its own window. -/
def behindWindow (query : Query) : String :=
  (if query.unions = [] then ""
    else dialect.sideClosing ++ partsBehind (dialect.branches query.unions) ++
      dialect.windowText query.unionWindow) ++
  dialect.lockText query.lock

variable {dialect}

theorem unionSide_eq (sql : String) :
    dialect.unionSide sql = dialect.sideOpening ++ sql ++ dialect.sideClosing := by
  unfold unionSide sideOpening sideClosing
  cases dialect.vendor <;> simp

theorem windowText_empty : dialect.windowText {} = "" := by
  simp [windowText, windowClauses, orderClause, limitClause, offsetClause, partsBehind, behindBlank]

theorem united_cons {main : String} (nonempty : main ≠ "") {branches : List String}
    (some : branches ≠ []) (window : Window) :
    dialect.united main branches window = dialect.sideOpening ++ main ++ dialect.sideClosing ++
      partsBehind branches ++ dialect.windowText window := by
  have side : dialect.unionSide main ≠ "" := by
    rw [unionSide_eq]
    simp [nonempty]
  rw [united, if_neg some, joinParts_cons side, partsBehind, List.map_singleton,
    behindBlank_joinParts, partsBehind_append, unionSide_eq, windowText]
  simp [String.append_assoc]

theorem locked_eq {sql : String} (nonempty : sql ≠ "") (lock : Option Lock) :
    dialect.locked sql lock = sql ++ dialect.lockText lock := by
  cases lock with
  | none => simp [locked, lockText]
  | some lock => simp [locked, lockText, joinParts_cons nonempty, partsBehind]

theorem projection_ne_empty (distinct : Bool) (columns : List Identifier)
    (aggregate : Option Aggregate) : dialect.projection distinct columns aggregate ≠ "" := by
  cases aggregate with
  | some aggregate => simp [projection, Dialect.aggregate]
  | none =>
      unfold projection selectList
      cases distinct <;> dsimp only <;> split <;> simp

theorem branches_ne_nil {unions : List Branch} (several : unions ≠ []) :
    dialect.branches unions ≠ [] := by
  obtain ⟨⟨first, keepsDuplicates⟩, rest, rfl⟩ := List.exists_cons_of_ne_nil several
  simp [branches]

/-- A select around its own window. -/
theorem select_eq_window (query : Query) :
    dialect.select query = dialect.beforeWindow query ++ dialect.windowText query.window ++
      dialect.behindWindow query := by
  obtain ⟨columns, distinct, table, joins, wheres, groups, havings, window, unions, unionWindow,
    lock, aggregate⟩ := query
  have written : dialect.projection distinct columns aggregate ≠ "" := projection_ne_empty _ _ _
  rw [select]
  unfold beforeWindow behindWindow
  dsimp only
  rw [List.cons_append, joinParts_cons written, joinParts_cons written, partsBehind_append,
    ← windowText, ← String.append_assoc]
  by_cases alone : unions = []
  · rw [if_pos alone, if_pos alone, alone, branches, united, if_pos rfl,
      locked_eq (by simp [written]), String.empty_append, String.empty_append]
    rfl
  · rw [if_neg alone, if_neg alone, united_cons (by simp [written]) (branches_ne_nil alone),
      locked_eq (by simp [written])]
    simp only [String.append_assoc]
    rfl

/-- The windows of the last branch and of the union, and what stands between them. -/
theorem select_eq_windows (dialect : Dialect) (query last : Query) (front : List Branch)
    (keepsDuplicates : Bool) :
    ∃ lead, ∀ own whole, dialect.select { query with
        unions := front ++ [⟨{ last with window := own }, keepsDuplicates⟩]
        unionWindow := whole } =
      lead ++ (dialect.windowText own ++ (dialect.behindWindow last ++ dialect.sideClosing) ++
        dialect.windowText whole) ++ dialect.lockText query.lock := by
  let word := if keepsDuplicates then "UNION ALL " else "UNION "
  refine ⟨dialect.sideOpening ++ dialect.beforeWindow { query with unions := [] } ++
    dialect.windowText query.window ++ dialect.sideClosing ++
    partsBehind (dialect.branches front) ++ " " ++ word ++ dialect.sideOpening ++
    dialect.beforeWindow last, fun own whole => ?_⟩
  have written : word ≠ "" := by
    cases keepsDuplicates <;> simp [word]
  have main : dialect.beforeWindow { query with
      unions := front ++ [⟨{ last with window := own }, keepsDuplicates⟩], unionWindow := whole } =
      dialect.sideOpening ++ dialect.beforeWindow { query with unions := [] } := by
    unfold beforeWindow
    rw [if_neg (by simp), if_pos rfl, String.empty_append]
  have branch : dialect.select { last with window := own } =
      dialect.beforeWindow last ++ dialect.windowText own ++ dialect.behindWindow last :=
    select_eq_window _
  have branches : partsBehind (dialect.branches
      (front ++ [⟨{ last with window := own }, keepsDuplicates⟩])) =
      partsBehind (dialect.branches front) ++ (" " ++ (word ++ (dialect.sideOpening ++
        (dialect.beforeWindow last ++ dialect.windowText own ++ dialect.behindWindow last) ++
        dialect.sideClosing))) := by
    rw [branches_append, partsBehind_append, Dialect.branches, Dialect.branches, branch,
      unionSide_eq, partsBehind_singleton (by simp [word, written])]
  rw [select_eq_window, main, behindWindow, if_neg (by simp), branches]
  simp only [String.append_assoc]

/-- Where the window was put is told by what stands between the two places, if by anything. -/
theorem select_windows_eq_iff (query last : Query) (front : List Branch) (keepsDuplicates : Bool)
    (window : Window) :
    dialect.select { query with
        unions := front ++ [⟨{ last with window }, keepsDuplicates⟩], unionWindow := {} } =
      dialect.select { query with
        unions := front ++ [⟨{ last with window := {} }, keepsDuplicates⟩],
        unionWindow := window } ↔
    dialect.windowText window ++ (dialect.behindWindow last ++ dialect.sideClosing) =
      dialect.behindWindow last ++ dialect.sideClosing ++ dialect.windowText window := by
  obtain ⟨lead, text⟩ := select_eq_windows dialect query last front keepsDuplicates
  rw [text, text, windowText_empty, String.append_empty, String.empty_append,
    String.append_left_inj, String.append_right_inj]

/-! How the texts begin -/

theorem ne_of_starts {word other : String} (lengths : word.length = other.length)
    (differ : word ≠ other) (left right : String) : word ++ left ≠ other ++ right := by
  intro same
  rw [← String.toList_inj, String.toList_append, String.toList_append] at same
  have counted : word.toList.length = other.toList.length := by
    rw [String.length_toList, String.length_toList, lengths]
  exact differ (String.toList_inj.mp (List.append_inj_left same counted))

theorem behindBlank_append {word : String} (nonempty : word ≠ "") (more : String) :
    behindBlank (word ++ more) = " " ++ word ++ more := by
  rw [behindBlank, if_neg (by simp [nonempty]), String.append_assoc]

/-- A text that begins with one of some words behind a blank. -/
def Starts (words : List String) (text : String) : Prop :=
  ∃ word ∈ words, ∃ more, text = " " ++ word ++ more

theorem Starts.behindBlank {words : List String} {word : String} (member : word ∈ words)
    (nonempty : word ≠ "") (more rest : String) :
    Starts words (SqlToolkit.behindBlank (word ++ more) ++ rest) :=
  ⟨word, member, more ++ rest, by rw [behindBlank_append nonempty, String.append_assoc]⟩

theorem windowText_eq (window : Window) :
    dialect.windowText window = behindBlank (dialect.orderClause window.orders) ++
      (behindBlank (dialect.limitClause window) ++ behindBlank (offsetClause window)) := by
  simp [windowText, windowClauses, partsBehind]

theorem windowText_starts {window : Window} (framed : window ≠ {}) :
    Starts ["OR", "LI", "OF"] (dialect.windowText window) := by
  obtain ⟨orders, limit, offset⟩ := window
  rw [windowText_eq]
  by_cases unordered : orders = []
  · subst unordered
    rw [orderClause, if_pos rfl, behindBlank, if_pos rfl, String.empty_append]
    cases limit with
    | some limit =>
        have limited : dialect.limitClause ⟨[], some limit, offset⟩ =
            "LI" ++ ("MIT " ++ toString limit) := by
          rw [limitClause, ← String.append_assoc]
          rfl
        rw [limited]
        exact .behindBlank (.tail _ (.head _)) (by decide) _ _
    | none =>
        cases offset with
        | none => exact absurd rfl framed
        | some offset =>
            -- Only PostgreSQL has an offset without a limit before it.
            cases vendor : dialect.vendor with
            | sqlite =>
                have limited : dialect.limitClause ⟨[], none, some offset⟩ = "LI" ++ "MIT -1" := by
                  rw [limitClause, vendor]
                  rfl
                rw [limited]
                exact .behindBlank (.tail _ (.head _)) (by decide) _ _
            | mysql =>
                have limited : dialect.limitClause ⟨[], none, some offset⟩ =
                    "LI" ++ "MIT 18446744073709551615" := by
                  rw [limitClause, vendor]
                  rfl
                rw [limited]
                exact .behindBlank (.tail _ (.head _)) (by decide) _ _
            | postgres =>
                have unlimited : dialect.limitClause ⟨[], none, some offset⟩ = "" := by
                  rw [limitClause, vendor]
                have begun : offsetClause ⟨[], none, some offset⟩ =
                    "OF" ++ ("FSET " ++ toString offset) := by
                  rw [offsetClause, ← String.append_assoc]
                  rfl
                rw [unlimited, begun, behindBlank, if_pos rfl, String.empty_append,
                  ← String.append_empty (s := SqlToolkit.behindBlank _)]
                exact .behindBlank (.tail _ (.tail _ (.head _))) (by decide) _ _
  · have ordered : dialect.orderClause orders =
        "OR" ++ ("DER BY " ++ ", ".intercalate (orders.map dialect.order)) := by
      rw [orderClause, if_neg unordered, ← String.append_assoc]
      rfl
    rw [ordered]
    exact .behindBlank (.head _) (by decide) _ _

theorem partsBehind_branches {unions : List Branch} (several : unions ≠ []) (rest : String) :
    Starts ["UN"] (partsBehind (dialect.branches unions) ++ rest) := by
  obtain ⟨⟨first, keepsDuplicates⟩, others, rfl⟩ := List.exists_cons_of_ne_nil several
  have word : (if keepsDuplicates then "UNION ALL " else "UNION ") =
      "UN" ++ (if keepsDuplicates then "ION ALL " else "ION ") := by
    cases keepsDuplicates <;> rfl
  rw [branches, word, partsBehind, List.map_cons, String.join_cons, String.append_assoc,
    String.append_assoc]
  exact .behindBlank (.head _) (by decide) _ _

theorem lockText_starts {lock : Lock} (plain : ∀ sql, lock ≠ .raw sql)
    (locks : dialect.vendor ≠ .sqlite) (rest : String) :
    Starts ["FO", "LO"] (dialect.lockText (some lock) ++ rest) := by
  cases lock with
  | raw sql => exact absurd rfl (plain sql)
  | forUpdate =>
      have text : dialect.lockClause .forUpdate = "FO" ++ "R UPDATE" := by
        cases vendor : dialect.vendor with
        | sqlite => exact absurd vendor locks
        | mysql | postgres => simp [lockClause, vendor]
      rw [lockText, text]
      exact .behindBlank (.head _) (by decide) _ _
  | shared =>
      cases vendor : dialect.vendor with
      | sqlite => exact absurd vendor locks
      | mysql =>
          have text : dialect.lockClause .shared = "LO" ++ "CK IN SHARE MODE" := by
            simp [lockClause, vendor]
          rw [lockText, text]
          exact .behindBlank (.tail _ (.head _)) (by decide) _ _
      | postgres =>
          have text : dialect.lockClause .shared = "FO" ++ "R SHARE" := by
            simp [lockClause, vendor]
          rw [lockText, text]
          exact .behindBlank (.head _) (by decide) _ _

theorem Starts.mono {words more : List String} {text : String} (starts : Starts words text)
    (among : words ⊆ more) : Starts more text := by
  obtain ⟨word, member, rest, rfl⟩ := starts
  exact ⟨word, among member, rest, rfl⟩

/-- Where something stands between the two places that is not given as a fragment, it does not begin
as a window does. -/
theorem behind_starts {last : Query} (plain : ∀ sql, last.lock ≠ some (.raw sql))
    (kept : dialect.vendor = .mysql ∨ last.unions ≠ [] ∨
      dialect.vendor = .postgres ∧ last.lock ≠ none) :
    Starts ["UN", "FO", "LO"] (dialect.behindWindow last ++ dialect.sideClosing) ∨
      ∃ more, dialect.behindWindow last ++ dialect.sideClosing = ")" ++ more := by
  unfold behindWindow
  by_cases alone : last.unions = []
  · rw [if_pos alone, String.empty_append]
    have locks : dialect.vendor ≠ .sqlite := by
      intro vendor
      simp [vendor, alone] at kept
    cases locked : last.lock with
    | none =>
        have vendor : dialect.vendor = .mysql := by simpa [alone, locked] using kept
        exact .inr ⟨"", by simp [lockText, sideClosing, vendor]⟩
    | some lock =>
        have clause : ∀ sql, lock ≠ .raw sql := fun sql same => plain sql (by rw [locked, same])
        exact .inl ((lockText_starts clause locks _).mono (by simp))
  · rw [if_neg alone]
    by_cases vendor : dialect.vendor = .mysql
    · refine .inr ⟨partsBehind (dialect.branches last.unions) ++
        dialect.windowText last.unionWindow ++ dialect.lockText last.lock ++ ")", ?_⟩
      rw [sideClosing, if_pos vendor]
      simp only [String.append_assoc]
    · rw [sideClosing, if_neg vendor, String.empty_append, String.append_assoc, String.append_assoc]
      exact .inl ((partsBehind_branches alone _).mono (by simp))

theorem windowText_apart {last : Query} {window : Window} (framed : window ≠ {})
    (plain : ∀ sql, last.lock ≠ some (.raw sql)) :
    dialect.windowText window ++ (dialect.behindWindow last ++ dialect.sideClosing) ≠
        dialect.behindWindow last ++ dialect.sideClosing ++ dialect.windowText window ↔
      dialect.vendor = .mysql ∨ last.unions ≠ [] ∨
        dialect.vendor = .postgres ∧ last.lock ≠ none := by
  constructor
  -- With nothing between the two places, the window is written at the same place.
  · intro apart
    by_contra neither
    obtain ⟨vendor, unions, locks⟩ : dialect.vendor ≠ .mysql ∧ last.unions = [] ∧
        (dialect.vendor = .postgres → last.lock = none) := by
      simpa using neither
    have silent : dialect.lockText last.lock = "" := by
      cases locked : last.lock with
      | none => rfl
      | some lock =>
          have vendor : dialect.vendor = .sqlite := by
            cases vendor : dialect.vendor <;> simp_all
          cases lock with
          | raw sql => exact absurd locked (plain sql)
          | forUpdate | shared => simp [lockText, lockClause, vendor, behindBlank]
    have none : dialect.behindWindow last ++ dialect.sideClosing = "" := by
      rw [behindWindow, if_pos unions, silent, sideClosing, if_neg vendor]
      rfl
    rw [none, String.append_empty, String.empty_append] at apart
    exact apart rfl
  -- The words of a window differ from all that may stand behind it by their first two letters.
  · intro kept
    have starts : Starts ["OR", "LI", "OF"] (dialect.windowText window) := windowText_starts framed
    obtain ⟨word, member, rest, text⟩ := starts
    rcases behind_starts plain kept with ⟨other, others, more, behind⟩ | ⟨more, behind⟩
    · rw [text, behind, @String.append_assoc (" " ++ word) rest,
        @String.append_assoc (" " ++ other) more]
      simp only [List.mem_cons, List.not_mem_nil, or_false] at member others
      refine ne_of_starts ?_ ?_ _ _ <;>
        rcases member with rfl | rfl | rfl <;> rcases others with rfl | rfl | rfl <;> decide
    · rw [text, behind, @String.append_assoc " " word, @String.append_assoc " " (word ++ rest),
        @String.append_assoc ")" more]
      have lengths : " ".length = ")".length := rfl
      exact ne_of_starts lengths (by decide) _ _

end Dialect

/-- A window on the last branch of a union is told from the same window on the union just if it does
not change places with what the branch writes behind it: always in MySQL, by the parentheses, and in
SQLite and PostgreSQL if the branch has branches or a lock of its own. -/
theorem branch_window_apart_iff (dialect : Dialect) (query last : Query) (front : List Branch)
    (keepsDuplicates : Bool) (window : Window) (framed : window ≠ {}) :
    let onBranch := { query with
      unions := front ++ [⟨{ last with window }, keepsDuplicates⟩], unionWindow := {} }
    let onUnion := { query with
      unions := front ++ [⟨{ last with window := {} }, keepsDuplicates⟩], unionWindow := window }
    let behind := dialect.behindWindow last ++ dialect.sideClosing
    (dialect.select onBranch ≠ dialect.select onUnion ↔
      dialect.windowText window ++ behind ≠ behind ++ dialect.windowText window) ∧
    ((∀ sql, last.lock ≠ some (.raw sql)) →
      (dialect.select onBranch ≠ dialect.select onUnion ↔
        dialect.vendor = .mysql ∨ last.unions ≠ [] ∨
          dialect.vendor = .postgres ∧ last.lock ≠ none)) := by
  intro onBranch onUnion behind
  have apart : dialect.select onBranch ≠ dialect.select onUnion ↔
      dialect.windowText window ++ behind ≠ behind ++ dialect.windowText window :=
    not_congr (Dialect.select_windows_eq_iff query last front keepsDuplicates window)
  exact ⟨apart, fun plain => apart.trans (Dialect.windowText_apart framed plain)⟩

theorem enclosed_branch_window_apart :
    let dialect := Vendor.mysql.dialect
    let query : Query := { table := some (.named "a") }
    let last : Query := { table := some (.named "b") }
    let window : Window := { limit := some 5 }
    window ≠ {} ∧
    dialect.select { query with
      unions := [⟨{ last with window }, false⟩], unionWindow := {} } ≠
    dialect.select { query with
      unions := [⟨{ last with window := {} }, false⟩], unionWindow := window } := by
  intro dialect query last window
  have framed : window ≠ {} := by decide
  exact ⟨framed, ((branch_window_apart_iff dialect query last [] false window framed).2 nofun).mpr
    (.inl rfl)⟩

/-- The same limit on the branch and on the union. -/
theorem open_branch_window_mistaken :
    let dialect := Vendor.postgres.dialect
    let query : Query := { table := some (.named "a") }
    let last : Query := { table := some (.named "b") }
    let window : Window := { limit := some 5 }
    window ≠ {} ∧
    dialect.select { query with
      unions := [⟨{ last with window }, false⟩], unionWindow := {} } =
        "SELECT * FROM \"a\" UNION SELECT * FROM \"b\" LIMIT 5" ∧
    dialect.select { query with
      unions := [⟨{ last with window := {} }, false⟩], unionWindow := window } =
        "SELECT * FROM \"a\" UNION SELECT * FROM \"b\" LIMIT 5" := by
  decide +kernel

end SqlToolkit
