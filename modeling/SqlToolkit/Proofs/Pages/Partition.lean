import Mathlib
import SqlToolkit.Proofs.Pages.Counting
import SqlToolkit.Proofs.Rehearsal.Runs
/-!
Pages of a result that the database keeps as one list of rows. Laid end to end they are the list,
and reading them with or without a count shows the same rows and the same end.
-/

namespace SqlToolkit

open Number

/-! Pages of a list -/

section Lists

variable {rows : List Row} {perPage page : Nat}

/-- The rows of one page; pages count from one. -/
def pageRows (rows : List Row) (perPage page : Nat) : List Row :=
  (rows.drop ((page - 1) * perPage)).take perPage

/-- How many pages there are. A list without rows has one too. -/
def pageCount (rows : List Row) (perPage : Nat) : Nat :=
  max 1 (rows.length ⌈/⌉ perPage)

theorem length_pageRows_le : (pageRows rows perPage page).length ≤ perPage :=
  List.length_take_le _ _

theorem flatMap_pageRows (rows : List Row) (perPage count : Nat) :
    (List.range' 1 count).flatMap (pageRows rows perPage) = rows.take (count * perPage) := by
  induction count with
  | zero => simp
  | succ count ih =>
      have last : pageRows rows perPage (1 + count) =
          (rows.drop (count * perPage)).take perPage := by
        rw [pageRows, Nat.add_sub_cancel_left]
      rw [List.range'_1_concat, List.flatMap_append, ih, List.flatMap_singleton, last, Nat.add_mul,
        Nat.one_mul, List.take_add]

theorem length_le_pageCount (positive : 0 < perPage) :
    rows.length ≤ pageCount rows perPage * perPage := by
  have enough : rows.length ≤ perPage * (rows.length ⌈/⌉ perPage) :=
    le_smul_ceilDiv positive
  calc rows.length ≤ perPage * (rows.length ⌈/⌉ perPage) := enough
    _ ≤ perPage * pageCount rows perPage := Nat.mul_le_mul_left _ (le_max_right _ _)
    _ = pageCount rows perPage * perPage := Nat.mul_comm _ _

theorem flatMap_pages (positive : 0 < perPage) :
    (List.range' 1 (pageCount rows perPage)).flatMap (pageRows rows perPage) = rows := by
  rw [flatMap_pageRows, List.take_of_length_le (length_le_pageCount positive)]

/-- A page is followed by another just if there are rows beyond it. -/
theorem lt_pageCount_iff (positive : 0 < perPage) :
    max page 1 < pageCount rows perPage ↔ max page 1 * perPage < rows.length := by
  have begun : ¬max page 1 < 1 := Nat.not_lt.mpr (le_max_right _ _)
  rw [pageCount, lt_max_iff, or_iff_right begun, ← not_le, ← not_le,
    ceilDiv_le_iff_le_smul positive, smul_eq_mul, Nat.mul_comm]

theorem exists_beyond_iff {bound : Nat} :
    (∃ place, place < rows.length ∧ bound ≤ place) ↔ bound < rows.length := by
  constructor
  · rintro ⟨place, inside, beyond⟩
    omega
  · exact fun inside => ⟨bound, inside, le_rfl⟩

/-- The offset of a page stops at the largest word, where there are no rows any more. -/
theorem drop_saturatingMul (short : rows.length ≤ maxUnsigned) (left right : Nat) :
    rows.drop (saturatingMul left right) = rows.drop (left * right) := by
  unfold saturatingMul
  rcases le_total (left * right) maxUnsigned with within | beyond
  · rw [min_eq_left within]
  · rw [min_eq_right beyond, List.drop_of_length_le short, List.drop_of_length_le (by omega)]

end Lists

/-! What the counted and the peeked page are made of -/

section Made

variable {rows : List Row} {perPage page : Nat}

theorem CountedPage.last_make (positive : 0 < perPage) {items : List Row} :
    (CountedPage.make items rows.length perPage page).last = pageCount rows perPage := by
  have spaced : perPage ≠ 0 := Nat.ne_of_gt positive
  simp only [CountedPage.make, if_neg spaced]
  rw [max_comm, pageCount, Nat.ceilDiv_eq_add_pred_div]

theorem CountedPage.hasMore_make_iff (positive : 0 < perPage) {items : List Row} :
    (CountedPage.make items rows.length perPage page).hasMore = true ↔
      max page 1 * perPage < rows.length := by
  rw [← lt_pageCount_iff positive, hasMore, last_make positive, decide_eq_true_iff]
  rfl

/-- The row behind the page is peeked at, unless the page ends at the largest word. -/
theorem PeekedPage.make_peeked (short : rows.length < maxUnsigned) :
    let peeked := (rows.drop ((page - 1) * perPage)).take (saturatingAdd perPage 1)
    (PeekedPage.make peeked perPage page).items = pageRows rows perPage page ∧
      ((PeekedPage.make peeked perPage page).hasMore = true ↔
        max page 1 * perPage < rows.length) := by
  have ahead : max page 1 * perPage = (page - 1) * perPage + perPage := by
    rw [← Nat.succ_mul]
    congr 1
    omega
  have cut : (rows.drop ((page - 1) * perPage)).take (saturatingAdd perPage 1) =
      (rows.drop ((page - 1) * perPage)).take (perPage + 1) := by
    unfold saturatingAdd
    rcases le_total (perPage + 1) maxUnsigned with within | beyond
    · rw [min_eq_left within]
    · have shorter : (rows.drop ((page - 1) * perPage)).length ≤ maxUnsigned := by
        rw [List.length_drop]
        omega
      rw [min_eq_right beyond, List.take_of_length_le shorter,
        List.take_of_length_le (shorter.trans beyond)]
  dsimp only
  rw [cut, ahead]
  constructor
  · simp [PeekedPage.make, pageRows, List.take_take]
  · simp only [PeekedPage.make, decide_eq_true_iff, List.length_take, List.length_drop]
    omega

end Made

/-! Databases that answer from one list -/

namespace Builder

/-- The statement of the rows of a window. -/
def windowStatement (builder : Builder) (limit offset : Nat) : Statement :=
  ⟨builder.dialect.select { builder.query with
      window := { builder.query.window with limit := some limit, offset := some offset } },
    builder.bindings.flatten⟩

theorem changeWindow_single {builder : Builder} (single : builder.query.unions = [])
    (f : Window → Window) :
    builder.changeWindow f =
      builder.change fun query => { query with window := f query.window } := by
  unfold changeWindow change
  simp only [single, List.isEmpty_nil, if_true]

/-- A builder without branches that is given a limit and an offset reads that window. -/
theorem get_window {builder : Builder} (accepted : builder.fault = none)
    (single : builder.query.unions = []) (limit offset : Nat) :
    (builder.changeWindow fun window =>
        { window with limit := some limit, offset := some offset }).get =
      .send (.fetch false (builder.windowStatement limit offset)) .result := by
  rw [changeWindow_single single, get, statement, sql, sound,
    show (builder.change _).fault = none from accepted]
  rfl

theorem paginate_eq {builder : Builder} (accepted : builder.fault = none)
    (single : builder.query.unions = []) (perPage page : Nat) :
    builder.paginate perPage page =
      .send (.fetch false builder.countStatement) fun rows =>
        let total := ((leadingInteger? rows).getD 0).toNat
        if total = 0 then .result (.make [] total perPage page)
        else
          .send (.fetch false
              (builder.windowStatement perPage (saturatingMul (page - 1) perPage))) fun items =>
            .result (.make items total perPage page) := by
  unfold paginate forPage
  rw [countForPages_eq accepted, get_window accepted single]
  refine congrArg (Program.send (.fetch false builder.countStatement)) (funext fun rows => ?_)
  exact ite_congr rfl (fun _ => rfl) fun _ => rfl

theorem simplePaginate_eq {builder : Builder} (accepted : builder.fault = none)
    (single : builder.query.unions = []) (perPage page : Nat) :
    builder.simplePaginate perPage page =
      .send (.fetch false (builder.windowStatement (saturatingAdd perPage 1)
          (saturatingMul (page - 1) perPage))) fun items =>
        .result (.make items perPage page) := by
  have peeking : (builder.forPage page perPage).changeWindow (fun window =>
        { window with limit := some (saturatingAdd perPage 1) }) =
      builder.changeWindow fun window =>
        { window with
          limit := some (saturatingAdd perPage 1)
          offset := some (saturatingMul (page - 1) perPage) } := by
    simp only [forPage, changeWindow, change, single, List.isEmpty_nil, if_true]
  unfold simplePaginate
  dsimp only
  rw [peeking, get_window accepted single]
  rfl

end Builder

variable {σ : Type} [Database σ]

/-- A database that keeps one list of rows for a builder: it counts them, and cuts windows out of
them. It may change while it answers, as long as `holds` stays true of it. -/
structure KeepsRows (holds : σ → Prop) (session : Session) (builder : Builder) (rows : List Row) :
    Prop where
  counts : ∀ state, holds state → ∃ answer after,
    Database.answer session (.fetch false builder.countStatement) state = .ok answer after ∧
      holds after ∧ leadingInteger? answer = some (rows.length : Int)
  windows : ∀ state limit offset, holds state → limit ≤ maxUnsigned → offset ≤ maxUnsigned →
    ∃ after,
      Database.answer session (.fetch false (builder.windowStatement limit offset)) state =
        .ok ((rows.drop offset).take limit) after ∧ holds after

namespace Link

/-- A connection that reads by a session and does not pretend. -/
structure Reads (holds : σ → Prop) (session : Session) (link : Link σ) : Prop where
  sends : link.connection.pretending = false
  session : ∀ statement, link.connection.session? (.fetch false statement) = some session
  holds : holds link.database

theorem Reads.run {holds keeps : σ → Prop} {session : Session} {link : Link σ}
    {statement : Statement} {rows : List Row} {database : σ} (reads : link.Reads holds session)
    (answers : Database.answer session (.fetch false statement) link.database = .ok rows database)
    (kept : keeps database) :
    ∃ after, Link.run (.fetch false statement) link = .ok rows after ∧
      after.Reads keeps session := by
  obtain ⟨connection, state⟩ := link
  have tried : tryRequest (.fetch false statement) ⟨connection, state⟩ =
      .ok rows ⟨connection, database⟩ := by
    unfold tryRequest
    rw [reads.session]
    simp only [onDatabase, answers]
  have talking : connection.pretending = false := reads.sends
  cases logging : connection.logging with
  | false =>
      refine ⟨⟨connection, database⟩, ?_, reads.sends, reads.session, kept⟩
      simp [Link.run, current, persist, outcome, tried, talking, logging, bind, EStateM.bind, pure,
        EStateM.pure, get, getThe, MonadStateOf.get, EStateM.get]
  | true =>
      refine ⟨⟨connection.withLogged statement true, database⟩, ?_, reads.sends, reads.session,
        kept⟩
      simp [Link.run, current, persist, outcome, tried, talking, logging, bind, EStateM.bind, pure,
        EStateM.pure, get, getThe, MonadStateOf.get, EStateM.get, change, modify, modifyGet,
        MonadStateOf.modifyGet, EStateM.modifyGet, Request.statement]

theorem Reads.perform_send {holds keeps : σ → Prop} {session : Session} {link : Link σ}
    {statement : Statement} {rows : List Row} {database : σ} (reads : link.Reads holds session)
    (answers : Database.answer session (.fetch false statement) link.database = .ok rows database)
    (kept : keeps database) :
    ∃ middle : Link σ, middle.Reads keeps session ∧
      ∀ {α : Type} (next : List Row → Program α),
        perform (.send (.fetch false statement) next) link = perform (next rows) middle := by
  obtain ⟨middle, ran, still⟩ := reads.run answers kept
  refine ⟨middle, still, fun next => ?_⟩
  rw [perform]
  simp only [bind, EStateM.bind, ran]

section Pages

variable {holds : σ → Prop} {session : Session} {builder : Builder} {rows : List Row}
  {link : Link σ} {perPage : Nat}

theorem Reads.paginate (reads : link.Reads holds session) (accepted : builder.fault = none)
    (single : builder.query.unions = []) (keeps : KeepsRows holds session builder rows)
    (short : rows.length < maxUnsigned) (bounded : perPage ≤ maxUnsigned) (page : Nat) :
    ∃ after, perform (builder.paginate perPage page) link =
        .ok (.make (pageRows rows perPage page) rows.length perPage page) after ∧
      after.Reads holds session := by
  obtain ⟨answer, state, answered, kept, total⟩ := keeps.counts link.database reads.holds
  obtain ⟨middle, counted, next⟩ := reads.perform_send answered kept
  rw [Builder.paginate_eq accepted single, next]
  simp only [total, Option.getD_some, Int.toNat_natCast]
  by_cases empty : rows.length = 0
  · have none : pageRows rows perPage page = [] := by
      simp [pageRows, List.length_eq_zero_iff.mp empty]
    rw [if_pos empty, none, empty]
    exact ⟨middle, rfl, counted⟩
  · obtain ⟨state, answered, kept⟩ := keeps.windows middle.database perPage
      (saturatingMul (page - 1) perPage) counted.holds bounded (min_le_right _ _)
    obtain ⟨last, ended, next⟩ := counted.perform_send answered kept
    rw [if_neg empty, next, drop_saturatingMul short.le]
    exact ⟨last, rfl, ended⟩

theorem Reads.simplePaginate (reads : link.Reads holds session) (accepted : builder.fault = none)
    (single : builder.query.unions = []) (keeps : KeepsRows holds session builder rows)
    (short : rows.length < maxUnsigned) (page : Nat) :
    ∃ after, perform (builder.simplePaginate perPage page) link =
        .ok (.make ((rows.drop ((page - 1) * perPage)).take (saturatingAdd perPage 1)) perPage page)
          after ∧
      after.Reads holds session := by
  obtain ⟨state, answered, kept⟩ := keeps.windows link.database (saturatingAdd perPage 1)
    (saturatingMul (page - 1) perPage) reads.holds (min_le_right _ _) (min_le_right _ _)
  obtain ⟨last, ended, next⟩ := reads.perform_send answered kept
  rw [Builder.simplePaginate_eq accepted single, next, drop_saturatingMul short.le]
  exact ⟨last, rfl, ended⟩

omit [Database σ] in
/-- What each of several actions results in while a connection reads, all of them result in. -/
theorem Reads.mapM {α β : Type} {action : α → Action σ β} {result : α → β}
    (each : ∀ (item : α) {link : Link σ}, link.Reads holds session →
      ∃ after, action item link = .ok (result item) after ∧ after.Reads holds session)
    (items : List α) (reads : link.Reads holds session) :
    ∃ after, items.mapM action link = .ok (items.map result) after ∧
      after.Reads holds session := by
  induction items generalizing link with
  | nil => exact ⟨link, rfl, reads⟩
  | cons item rest ih =>
      obtain ⟨middle, first, reads⟩ := each item reads
      obtain ⟨after, others, reads⟩ := ih reads
      refine ⟨after, ?_, reads⟩
      rw [List.mapM_cons]
      simp only [bind, EStateM.bind, first, others]
      rfl

end Pages

end Link

/-- The pages of a result that is kept as one list are the list, laid end to end in their order, and
each page tells, counted or peeked at, whether there are rows beyond it. -/
theorem pages_partition {holds : σ → Prop} {session : Session} {builder : Builder}
    {rows : List Row} {link : Link σ} {perPage : Nat} (accepted : builder.fault = none)
    (single : builder.query.unions = []) (keeps : KeepsRows holds session builder rows)
    (reads : link.Reads holds session) (short : rows.length < 2 ^ 63) (positive : 1 ≤ perPage)
    (bounded : perPage ≤ maxUnsigned) :
    (∃ pages after,
      (List.range' 1 (max 1 (rows.length ⌈/⌉ perPage))).mapM
          (fun page => Link.perform (builder.paginate perPage page)) link = .ok pages after ∧
        pages.flatMap CountedPage.items = rows ∧
        ∀ page ∈ pages, page.items.length ≤ perPage ∧
          page.last = max 1 (rows.length ⌈/⌉ perPage)) ∧
    ∀ page, ∃ counted peeked after other,
      Link.perform (builder.paginate perPage page) link = .ok counted after ∧
      Link.perform (builder.simplePaginate perPage page) link = .ok peeked other ∧
      counted.items.length ≤ perPage ∧ counted.last = max 1 (rows.length ⌈/⌉ perPage) ∧
      (counted.hasMore = true ↔ ∃ place, place < rows.length ∧ max page 1 * perPage ≤ place) ∧
      peeked.items = counted.items ∧ peeked.hasMore = counted.hasMore := by
  have short : rows.length < maxUnsigned := by
    unfold maxUnsigned
    omega
  constructor
  · obtain ⟨after, read, -⟩ := reads.mapM (fun page _ reads =>
      reads.paginate accepted single keeps short bounded page)
      (List.range' 1 (pageCount rows perPage))
    refine ⟨_, after, read, ?_, ?_⟩
    · rw [List.flatMap_map]
      exact flatMap_pages positive
    · intro page member
      obtain ⟨number, -, rfl⟩ := List.mem_map.mp member
      exact ⟨length_pageRows_le, CountedPage.last_make positive⟩
  · intro page
    obtain ⟨after, counts, -⟩ := reads.paginate accepted single keeps short bounded page
    obtain ⟨other, peeks, -⟩ := @Link.Reads.simplePaginate _ _ _ _ _ _ _ perPage reads accepted
      single keeps short page
    obtain ⟨items, beyond⟩ := @PeekedPage.make_peeked rows perPage page short
    have more := @CountedPage.hasMore_make_iff rows perPage page positive
      (pageRows rows perPage page)
    refine ⟨_, _, after, other, counts, peeks, length_pageRows_le, CountedPage.last_make positive,
      more.trans exists_beyond_iff.symm, items, ?_⟩
    rw [Bool.eq_iff_iff]
    exact beyond.trans more.symm

/-! A database of one table -/

/-- The rows of one table, counted or read in windows. -/
structure Shelf where
  rows : List Row

namespace Shelf

/-- The limit and the offset that a statement ends in. -/
def window? (sql : String) : Option (Nat × Nat) :=
  let back := sql.toList.reverse
  let offset := back.takeWhile Char.isDigit
  let limit := ((back.drop offset.length).drop " OFFSET ".length).takeWhile Char.isDigit
  if offset = [] then none
  else some (Nat.ofDigitChars 10 limit.reverse 0, Nat.ofDigitChars 10 offset.reverse 0)

/-- The numeral at the end of a text, read from behind. -/
theorem takeWhile_numeral (n : Nat) (rest : List Char) :
    ((toString n).toList.reverse ++ ' ' :: rest).takeWhile Char.isDigit =
      (toString n).toList.reverse := by
  have digits : ∀ c ∈ (toString n).toList.reverse, c.isDigit = true := by
    intro c member
    have listed : c ∈ Nat.toDigits 10 n := by simpa using member
    exact Nat.isDigit_of_mem_toDigits (by decide) (by decide) listed
  rw [List.takeWhile_append_of_pos digits, List.takeWhile_cons_of_neg (by decide), List.append_nil]

theorem ofDigitChars_toString (n : Nat) : Nat.ofDigitChars 10 (toString n).toList 0 = n := by
  simp

theorem window?_limit_offset (front : String) (limit offset : Nat) :
    window? (front ++ " LIMIT " ++ toString limit ++ " OFFSET " ++ toString offset) =
      some (limit, offset) := by
  have back : (front ++ " LIMIT " ++ toString limit ++ " OFFSET " ++
      toString offset).toList.reverse =
      (toString offset).toList.reverse ++ ' ' :: ("TESFFO ".toList ++
        ((toString limit).toList.reverse ++ ' ' :: ("TIMIL ".toList ++ front.toList.reverse))) := by
    simp
  have written : (toString offset).toList.reverse ≠ [] := by
    simp [Nat.toDigits_ne_nil]
  unfold window?
  dsimp only
  rw [back, takeWhile_numeral, if_neg written, List.drop_left]
  have gap : (' ' :: ("TESFFO ".toList ++ ((toString limit).toList.reverse ++
      ' ' :: ("TIMIL ".toList ++ front.toList.reverse)))).drop " OFFSET ".length =
      (toString limit).toList.reverse ++ ' ' :: ("TIMIL ".toList ++ front.toList.reverse) := rfl
  rw [gap, takeWhile_numeral, List.reverse_reverse, List.reverse_reverse, ofDigitChars_toString,
    ofDigitChars_toString]

def fetch (shelf : Shelf) (sql : String) : List Row :=
  match window? sql with
  | some (limit, offset) => (shelf.rows.drop offset).take limit
  | none => [⟨["aggregate"], [.integer shelf.rows.length]⟩]

instance : Database Shelf where
  connect _ _ := throw (.missingPackage "shelf")
  answer _ request := fun shelf =>
    match request with
    | .fetch _ statement => .ok (shelf.fetch statement.sql) shelf
    | .execute _ => .error "read only" shelf
    | .unprepared _ => .error "read only" shelf
  control _ _ := pure ()

end Shelf

def usersBuilder : Builder :=
  ({ dialect := Vendor.sqlite.dialect } : Builder).run [.table (.named "users")]

theorem usersBuilder_window (limit offset : Nat) :
    (usersBuilder.windowStatement limit offset).sql =
      "SELECT * FROM \"users\"" ++ " LIMIT " ++ toString limit ++ " OFFSET " ++
        toString offset := by
  have parts : (usersBuilder.windowStatement limit offset).sql =
      joinParts ["SELECT *", "FROM \"users\"", "", "", "", "", "", "LIMIT " ++ toString limit,
        "OFFSET " ++ toString offset] := rfl
  rw [parts, ← String.toList_inj]
  simp [joinParts]

theorem keepsRows_shelf (session : Session) (shelf : Shelf) :
    KeepsRows (· = shelf) session usersBuilder shelf.rows where
  counts state same := by
    subst same
    exact ⟨_, _, rfl, rfl, rfl⟩
  windows state limit offset same _ _ := by
    subst same
    refine ⟨state, ?_, rfl⟩
    have read : state.fetch (usersBuilder.windowStatement limit offset).sql =
        (state.rows.drop offset).take limit := by
      rw [Shelf.fetch, usersBuilder_window, Shelf.window?_limit_offset]
    exact congrArg (EStateM.Result.ok · state) read

/-- Five rows, two on a page. -/
def fiveUsers : Shelf where
  rows := [1, 2, 3, 4, 5].map fun key => ⟨["id"], [.integer key]⟩

def shelfSession : Session := ⟨0, "write", none⟩

def shelfLink : Link Shelf where
  connection :=
    { name := "main", config := { driver := "sqlite" }, vendor := .sqlite, marker := .question,
      write := some shelfSession, read := none, logging := true }
  database := fiveUsers

theorem five_users_partition :
    usersBuilder.fault = none ∧ usersBuilder.query.unions = [] ∧
      KeepsRows (· = fiveUsers) shelfSession usersBuilder fiveUsers.rows ∧
      shelfLink.Reads (· = fiveUsers) shelfSession ∧
      ∃ pages after,
        (List.range' 1 (max 1 (fiveUsers.rows.length ⌈/⌉ 2))).mapM
            (fun page => Link.perform (usersBuilder.paginate 2 page)) shelfLink = .ok pages after ∧
          pages.flatMap CountedPage.items = fiveUsers.rows ∧
          ∀ page ∈ pages, page.items.length ≤ 2 ∧
            page.last = max 1 (fiveUsers.rows.length ⌈/⌉ 2) := by
  have keeps := keepsRows_shelf shelfSession fiveUsers
  have reads : shelfLink.Reads (· = fiveUsers) shelfSession := ⟨rfl, fun _ => rfl, rfl⟩
  exact ⟨rfl, rfl, keeps, reads,
    (pages_partition rfl rfl keeps reads (by decide) (by decide) (by decide)).1⟩

end SqlToolkit
