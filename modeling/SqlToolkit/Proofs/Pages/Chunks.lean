import SqlToolkit.Proofs.Pages.Partition
import SqlToolkit.Proofs.Transactions.Operations
/-!
A result that the database keeps as one list of rows, read in chunks. The chunks are the list, laid
end to end, and the chunk that is not full ends the reading; a statement that fails ends it too.
-/

namespace SqlToolkit

open Number

/-! Full pages and the last one -/

section Lists

variable {rows : List Row} {size served : Nat}

theorem length_pageRows (rows : List Row) (size page : Nat) :
    (pageRows rows size page).length = min size (rows.length - (page - 1) * size) := by
  simp [pageRows]

theorem length_pageRows_full (full : served < rows.length / size) :
    (pageRows rows size (served + 1)).length = size := by
  have beyond : (served + 1) * size ≤ rows.length :=
    (Nat.mul_le_mul_right size full).trans (Nat.div_mul_le_self _ _)
  rw [Nat.add_mul, Nat.one_mul] at beyond
  rw [length_pageRows, Nat.add_sub_cancel]
  omega

theorem isEmpty_pageRows_full (positive : 1 ≤ size) (full : served < rows.length / size) :
    (pageRows rows size (served + 1)).isEmpty = false := by
  have length := length_pageRows_full full
  cases page : pageRows rows size (served + 1) with
  | nil =>
      rw [page, List.length_nil] at length
      omega
  | cons row others => rfl

theorem length_pageRows_last (positive : 0 < size) :
    (pageRows rows size (rows.length / size + 1)).length = rows.length % size := by
  have rest := Nat.div_add_mod' rows.length size
  have shorter := Nat.mod_lt rows.length positive
  rw [length_pageRows, Nat.add_sub_cancel]
  omega

/-- The pages that are not empty. -/
def filledPages (rows : List Row) (size : Nat) : List (List Row) :=
  ((List.range' 1 (rows.length / size + 1)).map (pageRows rows size)).filter (!·.isEmpty)

theorem flatten_filledPages (positive : 1 ≤ size) : (filledPages rows size).flatten = rows := by
  have enough : rows.length ≤ (rows.length / size + 1) * size :=
    (Nat.lt_div_mul_add positive).le.trans_eq (by rw [Nat.add_mul, Nat.one_mul])
  rw [filledPages, List.flatten_filter_not_isEmpty, ← List.flatMap_def, flatMap_pageRows,
    List.take_of_length_le enough]

theorem of_mem_filledPages {page : List Row} (member : page ∈ filledPages rows size) :
    page ≠ [] ∧ page.length ≤ size := by
  obtain ⟨listed, filled⟩ := List.mem_filter.mp member
  obtain ⟨number, -, rfl⟩ := List.mem_map.mp listed
  exact ⟨by simpa using filled, length_pageRows_le⟩

theorem filledPages_eq (positive : 1 ≤ size) :
    filledPages rows size =
      (List.range' 1 (rows.length / size)).map (pageRows rows size) ++
        [pageRows rows size (rows.length / size + 1)].filter (!·.isEmpty) := by
  have full : ((List.range' 1 (rows.length / size)).map (pageRows rows size)).filter
      (!·.isEmpty) = (List.range' 1 (rows.length / size)).map (pageRows rows size) := by
    rw [List.filter_eq_self]
    intro page member
    obtain ⟨number, listed, rfl⟩ := List.mem_map.mp member
    obtain ⟨served, inside, rfl⟩ := List.mem_range'.mp listed
    have filled := isEmpty_pageRows_full positive inside
    rw [Nat.one_mul, Nat.add_comm, filled]
    rfl
  rw [filledPages, List.range'_1_concat, List.map_append, List.filter_append, full,
    Nat.add_comm 1]
  rfl

theorem offset_le (full : served ≤ rows.length / size) : served * size ≤ rows.length :=
  (Nat.mul_le_mul_right size full).trans (Nat.div_mul_le_self _ _)

end Lists

/-! Streams of chunks -/

section Streams

variable {σ : Type}

/-- A database that has answered `served` statements answers the next one, as long as these are
fewer than `count`, by a window of one list of rows. -/
def ServesWindows [Database σ] (serving : Nat → σ → Prop) (session : Session) (builder : Builder)
    (rows : List Row) (count : Nat) : Prop :=
  ∀ {served : Nat} {state : σ} {limit offset : Nat}, served < count → serving served state →
    limit ≤ maxUnsigned → offset ≤ maxUnsigned →
    ∃ after,
      Database.answer session (.fetch false (builder.windowStatement limit offset)) state =
        .ok ((rows.drop offset).take limit) after ∧ serving (served + 1) after

theorem ServesWindows.mono [Database σ] {serving : Nat → σ → Prop} {session : Session}
    {builder : Builder} {rows : List Row} {fewer count : Nat} (le : fewer ≤ count)
    (serves : ServesWindows serving session builder rows count) :
    ServesWindows serving session builder rows fewer :=
  fun inside => serves (inside.trans_le le)

namespace Builder

/-- The statement of one chunk; chunks count from one. -/
def chunkStatement (builder : Builder) (size page : Nat) : Statement :=
  builder.windowStatement size ((page - 1) * size)

/-- The answered statement of one chunk. -/
def chunkEvent (builder : Builder) (session : Session) (size page : Nat) : Event :=
  ⟨.answer session (.fetch false (builder.chunkStatement size page)), none⟩

end Builder

namespace Chunks

/-- What a consumer of at most `limit` items gets. -/
def stream [Database σ] (chunks : Chunks) (limit : Nat) : Action σ (List (Except Error (List Row))) :=
  chunks.read (m := Action σ) (fun program => outcome (Link.perform program)) limit

theorem next_eq {builder : Builder} {size served : Nat} (accepted : builder.fault = none)
    (single : builder.query.unions = []) (within : served * size ≤ maxUnsigned) :
    (Chunks.mk builder size (served + 1) false).next =
      .send (.fetch false (builder.chunkStatement size (served + 1))) fun rows =>
        .result (if rows.isEmpty then none
          else some (rows, ⟨builder, size, served + 2, rows.length < size⟩)) := by
  have offset : saturatingMul (served + 1 - 1) size = (served + 1 - 1) * size := by
    rw [Nat.add_sub_cancel, saturatingMul, min_eq_left within]
  unfold next Builder.forPage Builder.chunkStatement
  rw [Builder.get_window accepted single, offset]
  refine congrArg (Program.send _) (funext fun rows => ?_)
  cases rows <;> rfl

section Steps

variable [Database σ] {chunks : Chunks} {link after : Link σ} {limit : Nat}

theorem stream_zero (chunks : Chunks) (link : Link σ) : chunks.stream 0 link = .ok [] link :=
  rfl

theorem stream_failed {error : Error} (failed : Link.perform chunks.next link = .error error after) :
    chunks.stream (limit + 1) link = .ok [.error error] after := by
  simp only [stream, read, bind, EStateM.bind, outcome, failed]
  rfl

theorem stream_ended (ended : Link.perform chunks.next link = .ok none after) :
    chunks.stream (limit + 1) link = .ok [] after := by
  simp only [stream, read, bind, EStateM.bind, outcome, ended]
  rfl

theorem stream_cons {rows : List Row} {rest : Chunks} {middle : Link σ}
    {items : List (Except Error (List Row))}
    (first : Link.perform chunks.next link = .ok (some (rows, rest)) middle)
    (others : rest.stream limit middle = .ok items after) :
    chunks.stream (limit + 1) link = .ok (.ok rows :: items) after := by
  unfold stream at others
  simp only [stream, read, bind, EStateM.bind, outcome, first, others]
  rfl

theorem stream_finished (finished : chunks.finished = true) (limit : Nat) :
    chunks.stream limit link = .ok [] link := by
  have ended : chunks.next = .result none := by
    rw [next, finished]
    rfl
  cases limit with
  | zero => exact stream_zero chunks link
  | succ limit => exact stream_ended (by rw [ended]; rfl)

end Steps

end Chunks

variable [Recording σ] {serving : Nat → σ → Prop} {session : Session} {builder : Builder}
  {rows : List Row} {link : Link σ} {size count served : Nat}

/-- One chunk is asked for by one statement. -/
theorem Link.Reads.nextChunk (reads : link.Reads (serving served) session)
    (accepted : builder.fault = none) (single : builder.query.unions = [])
    (serves : ServesWindows serving session builder rows count) (inside : served < count)
    (bounded : size ≤ maxUnsigned) (within : served * size ≤ maxUnsigned) :
    ∃ after : Link σ, after.Reads (serving (served + 1)) session ∧
      after.events = link.events ++ [builder.chunkEvent session size (served + 1)] ∧
      Link.perform (Chunks.mk builder size (served + 1) false).next link =
        .ok (if (pageRows rows size (served + 1)).isEmpty then none
          else some (pageRows rows size (served + 1),
            ⟨builder, size, served + 2, (pageRows rows size (served + 1)).length < size⟩)) after := by
  have offset : (served + 1 - 1) * size ≤ maxUnsigned := by rwa [Nat.add_sub_cancel]
  obtain ⟨state, answered, still⟩ : ∃ state,
      Database.answer session (.fetch false (builder.chunkStatement size (served + 1)))
          link.database = .ok (pageRows rows size (served + 1)) state ∧
        serving (served + 1) state :=
    serves inside reads.holds bounded offset
  have recorded : Recording.events state =
      link.events ++ [builder.chunkEvent session size (served + 1)] := by
    obtain ⟨refusal, recorded, accepted⟩ := Recording.answers session _
      (show Ends (Database.answer session _) link.database (.ok _) state from answered)
    rw [recorded, accepted.mpr ⟨_, rfl⟩]
    rfl
  obtain ⟨after, kept, next⟩ := @Link.Reads.perform_send σ _ _
    (fun database => database = state ∧ serving (served + 1) database) _ _ _ _ _ reads answered
    ⟨rfl, still⟩
  refine ⟨after, ⟨kept.sends, kept.session, kept.holds.2⟩, ?_, ?_⟩
  · rw [Link.events, kept.holds.1, recorded]
  · rw [Chunks.next_eq accepted single within, next]
    rfl

/-- As long as the chunks are full, each is followed by the next. -/
theorem Link.Reads.fullChunks (reads : link.Reads (serving 0) session)
    (accepted : builder.fault = none) (single : builder.query.unions = []) (positive : 1 ≤ size)
    (bounded : size ≤ maxUnsigned) (short : rows.length ≤ maxUnsigned)
    (full : served ≤ rows.length / size)
    (serves : ServesWindows serving session builder rows served) :
    ∃ middle : Link σ, middle.Reads (serving served) session ∧
      middle.events =
        link.events ++ (List.range' 1 served).map (builder.chunkEvent session size) ∧
      ∀ {limit items after},
        (Chunks.mk builder size (served + 1) false).stream limit middle = .ok items after →
          (builder.chunks size).stream (served + limit) link =
            .ok ((List.range' 1 served).map (fun page => .ok (pageRows rows size page)) ++ items)
              after := by
  induction served with
  | zero =>
      have unfinished : decide (size = 0) = false := decide_eq_false (Nat.ne_of_gt positive)
      refine ⟨link, reads, by simp, fun streamed => ?_⟩
      simpa [Builder.chunks, unfinished] using streamed
  | succ served ih =>
      obtain ⟨middle, reading, recorded, before⟩ :=
        ih (Nat.le_of_succ_le full) (serves.mono (Nat.le_succ _))
      have within := (offset_le (Nat.le_of_succ_le full)).trans short
      obtain ⟨after, still, event, next⟩ := reading.nextChunk accepted single serves
        (Nat.lt_succ_self _) bounded within
      have length := length_pageRows_full full
      have nonempty := isEmpty_pageRows_full positive full
      have more : decide (size < size) = false := decide_eq_false (Nat.lt_irrefl size)
      rw [nonempty, length, more, if_neg Bool.false_ne_true] at next
      refine ⟨after, still, ?_, fun {limit _ _} streamed => ?_⟩
      · rw [event, recorded, List.range'_1_concat, List.map_append, List.append_assoc,
          Nat.add_comm 1]
        rfl
      · have whole := before (Chunks.stream_cons next streamed)
        rw [show served + 1 + limit = served + (limit + 1) by omega, whole,
          List.range'_1_concat, List.map_append, List.append_assoc, Nat.add_comm 1]
        rfl

/-- The statement behind the full chunks is the last one. -/
theorem Link.Reads.lastChunk (reads : link.Reads (serving (rows.length / size)) session)
    (accepted : builder.fault = none) (single : builder.query.unions = []) (positive : 1 ≤ size)
    (bounded : size ≤ maxUnsigned) (short : rows.length ≤ maxUnsigned)
    (serves : ServesWindows serving session builder rows (rows.length / size + 1)) :
    ∃ after : Link σ,
      after.events =
          link.events ++ [builder.chunkEvent session size (rows.length / size + 1)] ∧
        ∀ limit,
          (Chunks.mk builder size (rows.length / size + 1) false).stream (limit + 1) link =
            .ok (([pageRows rows size (rows.length / size + 1)].filter (!·.isEmpty)).map .ok)
              after := by
  obtain ⟨after, -, event, next⟩ := reads.nextChunk accepted single serves
    (Nat.lt_succ_self _) bounded ((offset_le le_rfl).trans short)
  refine ⟨after, event, fun limit => ?_⟩
  have cut : decide ((pageRows rows size (rows.length / size + 1)).length < size) = true := by
    rw [decide_eq_true_iff, length_pageRows_last positive]
    exact Nat.mod_lt _ positive
  rw [cut] at next
  cases empty : (pageRows rows size (rows.length / size + 1)).isEmpty with
  | true =>
      rw [empty, if_pos rfl] at next
      rw [List.filter_singleton, empty]
      exact Chunks.stream_ended next
  | false =>
      rw [empty, if_neg Bool.false_ne_true] at next
      rw [List.filter_singleton, empty]
      exact Chunks.stream_cons next (Chunks.stream_finished rfl limit)

/-- A result of one list of rows is read in chunks that are not empty, that are no longer than
asked for, and that are the list when laid end to end; if a statement fails, its error is the last
item, behind the chunks that were read before. -/
theorem chunks_visit_rows {rows : List Row} {link : Link σ} (accepted : builder.fault = none)
    (single : builder.query.unions = []) (positive : 1 ≤ size) (bounded : size ≤ maxUnsigned)
    (short : rows.length ≤ maxUnsigned) (reads : link.Reads (serving 0) session) :
    (ServesWindows serving session builder rows (rows.length / size + 1) →
      ∃ (pages : List (List Row)) (after : Link σ),
        (∀ limit ≥ rows.length / size + 1,
          (builder.chunks size).stream limit link = .ok (pages.map .ok) after) ∧
        (∀ page ∈ pages, page ≠ [] ∧ page.length ≤ size) ∧ pages.flatten = rows ∧
        after.events = link.events ++
          (List.range' 1 (rows.length / size + 1)).map (builder.chunkEvent session size)) ∧
    ∀ served ≤ rows.length / size, ServesWindows serving session builder rows served →
      ∃ middle : Link σ, middle.Reads (serving served) session ∧
        middle.events =
          link.events ++ (List.range' 1 served).map (builder.chunkEvent session size) ∧
        (builder.chunks size).stream served link =
          .ok ((List.range' 1 served).map fun page => .ok (pageRows rows size page)) middle ∧
        ∀ {error : Error} {after : Link σ},
          Link.run (.fetch false (builder.chunkStatement size (served + 1))) middle =
            .error error after →
          ∀ limit > served,
            (builder.chunks size).stream limit link =
              .ok ((List.range' 1 served).map (fun page => .ok (pageRows rows size page)) ++
                [.error error]) after := by
  constructor
  · intro serves
    obtain ⟨middle, reading, recorded, before⟩ := reads.fullChunks accepted single positive bounded
      short le_rfl (serves.mono (Nat.le_succ _))
    obtain ⟨after, event, last⟩ :=
      reading.lastChunk accepted single positive bounded short serves
    refine ⟨filledPages rows size, after, fun limit enough => ?_, fun page => of_mem_filledPages,
      flatten_filledPages positive, ?_⟩
    · obtain ⟨more, rfl⟩ := Nat.exists_eq_add_of_le enough
      have whole := before (last more)
      rw [show rows.length / size + 1 + more = rows.length / size + (more + 1) by omega, whole,
        filledPages_eq positive, List.map_append, List.map_map]
      rfl
    · rw [event, recorded, List.range'_1_concat, List.map_append, List.append_assoc,
        Nat.add_comm 1]
      rfl
  · intro served full serves
    obtain ⟨middle, reading, recorded, before⟩ := reads.fullChunks accepted single positive bounded
      short full serves
    refine ⟨middle, reading, recorded, ?_, fun {error after} failed limit beyond => ?_⟩
    · simpa using before (Chunks.stream_zero _ middle)
    · obtain ⟨more, rfl⟩ := Nat.exists_eq_add_of_le beyond
      have stops : Link.perform (Chunks.mk builder size (served + 1) false).next middle =
          .error error after := by
        rw [Chunks.next_eq accepted single ((offset_le full).trans short), Link.perform]
        simp only [bind, EStateM.bind, failed]
      have whole := @before (more + 1) _ _ (Chunks.stream_failed stops)
      rw [show served.succ + more = served + (more + 1) by omega]
      exact whole

end Streams

/-! A database that gives up -/

/-- A database that refuses whatever it is asked behind the first `left` statements. -/
structure Rationed (σ : Type) where
  database : σ
  left : Nat

namespace Rationed

variable {σ ε α : Type}

def within (left : Nat) (action : EStateM ε σ α) : EStateM ε (Rationed σ) α := fun rationed =>
  match action rationed.database with
  | .ok value database => .ok value ⟨database, left⟩
  | .error error database => .error error ⟨database, left⟩

instance [Database σ] : Database (Rationed σ) where
  connect config role := fun rationed => within rationed.left (Database.connect config role) rationed
  answer session request := fun rationed =>
    match rationed.left with
    | 0 => .error "out of service" rationed
    | left + 1 => within left (Database.answer session request) rationed
  control session call := fun rationed => within rationed.left (Database.control session call) rationed

/-- Five rows, and a number of statements until none is answered any more. -/
def link (left : Nat) : Link (Traced (Rationed Shelf)) where
  connection := shelfLink.connection
  database := ⟨⟨fiveUsers, left⟩, []⟩

def serving (left served : Nat) (traced : Traced (Rationed Shelf)) : Prop :=
  traced.database.database = fiveUsers ∧ traced.database.left + served = left

theorem servesWindows (left : Nat) :
    ServesWindows (serving left) shelfSession usersBuilder fiveUsers.rows left := by
  rintro served ⟨⟨shelf, spare⟩, events⟩ limit offset inside ⟨same, counted⟩ small near
  change shelf = fiveUsers at same
  change spare + served = left at counted
  subst same
  obtain ⟨spare, rfl⟩ : ∃ rest, spare = rest + 1 := ⟨spare - 1, by omega⟩
  obtain ⟨after, answered, kept⟩ :=
    (keepsRows_shelf shelfSession fiveUsers).windows fiveUsers limit offset rfl small near
  subst kept
  have inner : Database.answer shelfSession (.fetch false (usersBuilder.windowStatement limit offset))
      (Rationed.mk fiveUsers (spare + 1)) =
        .ok ((fiveUsers.rows.drop offset).take limit) ⟨fiveUsers, spare⟩ := by
    change within spare (Database.answer shelfSession _) _ = _
    simp only [within, answered]
  let call : Call := .answer shelfSession (.fetch false (usersBuilder.windowStatement limit offset))
  refine ⟨⟨⟨fiveUsers, spare⟩, events ++ [⟨call, none⟩]⟩, ?_, rfl, ?_⟩
  · change Traced.record call id (Database.answer shelfSession _) _ = _
    simp only [Traced.record, inner]
  · change spare + (served + 1) = left
    omega

end Rationed

/-- Three statements for five rows, two at a time; or an error behind the first two. -/
theorem five_users_in_chunks :
    usersBuilder.fault = none ∧ usersBuilder.query.unions = [] ∧
      (Rationed.link 3).Reads (Rationed.serving 3 0) shelfSession ∧
      ServesWindows (Rationed.serving 3) shelfSession usersBuilder fiveUsers.rows 3 ∧
      ServesWindows (Rationed.serving 1) shelfSession usersBuilder fiveUsers.rows 1 ∧
      (∃ (pages : List (List Row)) (after : Link (Traced (Rationed Shelf))),
        (∀ limit ≥ 3,
          (usersBuilder.chunks 2).stream limit (Rationed.link 3) = .ok (pages.map .ok) after) ∧
        (∀ page ∈ pages, page ≠ [] ∧ page.length ≤ 2) ∧ pages.flatten = fiveUsers.rows ∧
        after.events =
          (List.range' 1 3).map (usersBuilder.chunkEvent shelfSession 2)) ∧
      ∃ after, ∀ limit > 1,
        (usersBuilder.chunks 2).stream limit (Rationed.link 1) =
          .ok [.ok (fiveUsers.rows.take 2),
            .error (.query (usersBuilder.chunkStatement 2 2) "out of service")] after := by
  have reads : ∀ left, (Rationed.link left).Reads (Rationed.serving left 0) shelfSession :=
    fun left => ⟨rfl, fun _ => rfl, rfl, rfl⟩
  have serves := Rationed.servesWindows
  have visits := fun left => @chunks_visit_rows _ _ (Rationed.serving left) shelfSession
    usersBuilder 2 fiveUsers.rows (Rationed.link left) rfl rfl (by decide) (by decide) (by decide)
    (reads left)
  refine ⟨rfl, rfl, reads 3, serves 3, serves 1, (visits 3).1 (serves 3), ?_⟩
  obtain ⟨middle, -, -, first, stops⟩ := (visits 1).2 1 (by decide) (serves 1)
  have same : middle =
      ⟨shelfLink.connection.withLogged (usersBuilder.chunkStatement 2 1) true,
        ⟨⟨fiveUsers, 0⟩, [usersBuilder.chunkEvent shelfSession 2 1]⟩⟩ := by
    cases first
    rfl
  subst same
  exact ⟨_, stops rfl⟩

end SqlToolkit
