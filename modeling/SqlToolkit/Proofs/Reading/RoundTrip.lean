import SqlToolkit.Proofs.Reading.Clauses
/-!
Reading a statement gives back the predicates of the builder that wrote it: the clause is found
among the others by its keyword, whatever the names in the statement are made of.
-/

namespace SqlToolkit

/-- A clause that is left out, or its keyword and trees that begin no other clause. -/
def IsClause (keyword : String) (trees : List Tree) : Prop :=
  trees = [] ∨ ∃ rest, trees = wordTree keyword :: rest ∧ Avoid clauseWords rest

/-- Trees that end the clause before them, if there are any. -/
def Stops (trees : List Tree) : Prop :=
  ∀ tree ∈ trees.head?, ∃ word ∈ clauseWords, tree.isWord word = true

namespace IsClause

variable {keyword : String} {trees rest : List Tree}

theorem stops (clause : IsClause keyword trees) (begins : Text.asciiLower keyword ∈ clauseWords)
    (behind : Stops rest) : Stops (trees ++ rest) := by
  rcases clause with rfl | ⟨body, rfl, -⟩
  · exact behind
  · rintro _ ⟨⟩
    refine ⟨_, begins, decide_eq_true ?_⟩
    rw [Text.asciiLower, String.toList_ofList]

theorem avoid (clause : IsClause keyword trees) {word : String} (listed : word ∈ clauseWords)
    (other : Text.asciiLower keyword ≠ word) : Avoid [word] trees := by
  rcases clause with rfl | ⟨body, rfl, avoid⟩
  · exact .nil
  · exact .word (by simpa using other) (avoid.mono (by simpa using listed))

end IsClause

namespace Dialect

variable {dialect : Dialect}

theorem clauseAfter?_of_avoid {word : String} {trees : List Tree} (avoid : Avoid [word] trees) :
    clauseAfter? word trees = none := by
  have all : ∀ tree ∈ trees, (!tree.isWord word) = true := by
    simpa [Avoid] using avoid
  have none := @List.dropWhile_append_of_pos _ _ trees [] all
  rw [List.append_nil] at none
  rw [clauseAfter?, none]
  rfl

/-- A clause is found behind trees without its keyword, and ends where another begins. -/
theorem clauseAfter?_of_clause {word keyword : String} {front body rest : List Tree}
    (named : Text.asciiLower keyword = word) (before : Avoid [word] front)
    (avoid : Avoid clauseWords body) (stops : Stops rest) :
    clauseAfter? word (front ++ (wordTree keyword :: body ++ rest)) = some body := by
  have all : ∀ tree ∈ front, (!tree.isWord word) = true := by
    simpa [Avoid] using before
  have begins : (wordTree keyword).isWord word = true := by
    refine decide_eq_true ?_
    rw [← named, Text.asciiLower, String.toList_ofList]
  have quiet : ∀ tree ∈ body, (clauseWords.all fun word => !tree.isWord word) = true := by
    simpa [Avoid] using avoid
  have ended : rest.takeWhile (fun tree => clauseWords.all fun word => !tree.isWord word) = [] := by
    cases rest with
    | nil => rfl
    | cons tree rest =>
        obtain ⟨word, listed, same⟩ := stops tree rfl
        refine List.takeWhile_cons_of_neg ?_
        simp only [List.all_eq_true, Bool.not_eq_true']
        intro others
        rw [others word listed] at same
        cases same
  rw [clauseAfter?, List.dropWhile_append_of_pos all, List.cons_append, List.dropWhile_cons_of_neg
    (by simp [begins])]
  simp only [List.takeWhile_append_of_pos quiet, ended, List.append_nil]

/-! The clauses of a plain query -/

theorem avoid_named {words : List String} {column : Identifier} (named : column.IsNamed)
    (other : "as" ∉ words) : Avoid words (dialect.columnRefTrees column) := by
  cases column with
  | named name => exact avoid_columnTrees name other
  | verbatim sql => exact named.elim

theorem avoid_shown {column : Identifier} (shown : column.Shown dialect) :
    Avoid clauseWords (dialect.columnRefTrees column) := by
  cases column with
  | named name => exact avoid_columnTrees name (by decide)
  | verbatim sql =>
      obtain ⟨trees, reads, avoid⟩ := shown
      rw [columnRefTrees, fragmentTrees, reads.parse]
      exact avoid

theorem avoid_columnRefsTrees {columns : List Identifier}
    (shown : ∀ column ∈ columns, column.Shown dialect) :
    Avoid clauseWords (dialect.columnRefsTrees columns) := by
  refine .intercalate (.mark .nil) fun trees member => ?_
  obtain ⟨column, listed, rfl⟩ := List.mem_map.mp member
  exact avoid_shown (shown column listed)

theorem avoid_chainTrees {clauses : List (Connective × List Tree)}
    (each : ∀ clause ∈ clauses, Avoid clauseWords clause.2) :
    Avoid clauseWords (chainTrees clauses) := by
  cases clauses with
  | nil => exact .nil
  | cons first rest =>
      refine (each first List.mem_cons_self).append fun tree member => ?_
      obtain ⟨clause, listed, within⟩ := List.mem_flatMap.mp member
      have word : ∀ connective : Connective,
          Text.asciiLower connective.text ∉ clauseWords := by
        rintro (_ | _) <;> decide
      exact Avoid.word (word clause.1) (each clause (List.mem_cons_of_mem first listed)) tree within

theorem avoid_clauseTrees {members : List Clause} (plain : Clause.Plain dialect .legible members) :
    Avoid clauseWords (chainTrees (dialect.clauseTrees members)) := by
  refine avoid_chainTrees ?_
  induction members with
  | nil => rw [clauseTrees]; nofun
  | cons clause members ih =>
      obtain ⟨connective, predicate⟩ := clause
      rw [clauseTrees]
      exact List.forall_mem_cons.mpr ⟨avoid_clauseWords plain.1, ih plain.2⟩

theorem listed_clauseWords (vendor : Vendor) :
    ∀ operator ∈ vendor.operators, ∀ part ∈ operator.toList.splitOn ' ',
      String.ofList part ∉ clauseWords := by
  cases vendor <;> decide

theorem avoid_joinTrees {join : Join} (plain : join.IsPlain) (known : join.IsKnown dialect.vendor) :
    Avoid clauseWords (dialect.joinTrees join) := by
  have table : Avoid clauseWords (dialect.tableRefTrees join.table) := by
    have named := plain.table
    cases table : join.table with
    | named name => exact avoid_tableTrees name (by decide)
    | verbatim sql =>
        rw [table] at named
        exact named.elim
  have conditions : Avoid clauseWords (dialect.joinConditionsTrees join) := by
    refine avoid_chainTrees fun clause member => ?_
    obtain ⟨condition, listed, rfl⟩ := List.mem_map.mp member
    have operator : Avoid clauseWords (operatorTrees condition.operator) := by
      refine avoid_operatorTrees (listed_clauseWords dialect.vendor _ ?_)
      simpa [Vendor.knowsOperator] using known condition listed
    have target : Avoid clauseWords (dialect.joinTargetTrees condition.second) := by
      have second := (plain.conditions condition listed).second
      cases right : condition.second with
      | column column =>
          rw [right] at second
          exact avoid_named second (by decide)
      | value operand =>
          rw [right] at second
          exact foreign_clauseWords.operand second
    exact ((avoid_named (plain.conditions condition listed).first (by decide)).append
      operator).append target
  unfold joinTrees
  dsimp only
  split
  · exact .word (by decide) (.word (by decide) table)
  · have kind : Text.asciiLower join.kind.text ∉ clauseWords := by
      cases join.kind <;> decide
    exact Avoid.append (.word kind (.word (by decide) table)) (.word (by decide) conditions)

theorem avoid_selectListTrees (distinct : Bool) {columns : List Identifier}
    (shown : ∀ column ∈ columns, column.Shown dialect) :
    Avoid clauseWords (dialect.selectListTrees distinct columns) := by
  have listed : Avoid clauseWords
      (if columns = [] then [signTree "*"] else dialect.columnRefsTrees columns) := by
    split
    · exact .cons (fun _ _ => rfl) .nil
    · exact avoid_columnRefsTrees shown
  have kind : Avoid clauseWords (if distinct then [wordTree "DISTINCT"] else []) := by
    split
    · exact .word (by decide) .nil
    · exact .nil
  exact Avoid.append (.word (by decide) kind) listed

theorem avoid_sourceTrees {table : Option Identifier} (named : ∀ name ∈ table, name.IsNamed) :
    Avoid clauseWords (dialect.sourceTrees table) := by
  cases table with
  | none => exact .nil
  | some table =>
      cases table with
      | named name => exact .word (by decide) (avoid_tableTrees name (by decide))
      | verbatim sql => exact (named _ rfl).elim

theorem isClause_groupTrees {groups : List Identifier}
    (named : ∀ column ∈ groups, column.IsNamed) :
    IsClause "GROUP" (dialect.groupTrees groups) := by
  unfold groupTrees
  split
  · exact .inl rfl
  · exact .inr ⟨_, rfl, .word (by decide) (avoid_columnRefsTrees fun column member =>
      Shown.of_isNamed (named column member))⟩

theorem isClause_ordersTrees {orders : List Order} (plain : ∀ order ∈ orders, order.IsPlain) :
    IsClause "ORDER" (dialect.ordersTrees orders) := by
  unfold ordersTrees
  split
  · exact .inl rfl
  · refine .inr ⟨_, rfl, .word (by decide) (.intercalate (.mark .nil) fun trees member => ?_)⟩
    obtain ⟨order, listed, rfl⟩ := List.mem_map.mp member
    have single := plain order listed
    cases order with
    | column column direction =>
        have word : Text.asciiLower direction.text ∉ clauseWords := by
          cases direction <;> decide
        exact (avoid_named single (by decide)).append (.word word .nil)
    | raw sql => exact single.elim

theorem isAlpha_eq_false_of_isDigit {c : Char} (digit : c.isDigit = true) : c.isAlpha = false := by
  have bounds : '9'.val.toNat = 57 ∧ 'A'.val.toNat = 65 ∧ 'a'.val.toNat = 97 := by decide
  simp only [Char.isDigit, Char.isAlpha, Char.isUpper, Char.isLower, UInt32.le_iff_toNat_le,
    ge_iff_le, Bool.and_eq_true, decide_eq_true_eq, Bool.or_eq_false_iff, Bool.and_eq_false_iff,
    decide_eq_false_iff_not] at digit ⊢
  omega

theorem avoid_number (n : Nat) : Avoid clauseWords [wordTree (toString n)] := by
  have alphabetic : ∀ word ∈ clauseWords, word.toList.any Char.isAlpha = true := by decide
  refine .cons (fun word listed => decide_eq_false fun same => ?_) .nil
  obtain ⟨c, member, alpha⟩ := List.any_eq_true.mp (alphabetic word listed)
  rw [← same] at member
  obtain ⟨digit, written, rfl⟩ := List.mem_map.mp member
  have among : digit ∈ Nat.toDigits 10 n := by simpa using written
  have isDigit := Nat.isDigit_of_mem_toDigits (by decide) (by decide) among
  have none := isAlpha_eq_false_of_isDigit isDigit
  rw [isAlpha_of_toLower alpha] at none
  cases none

theorem isClause_limitTrees (window : Window) : IsClause "LIMIT" (dialect.limitTrees window) := by
  unfold limitTrees
  split
  · exact .inr ⟨_, rfl, avoid_number _⟩
  · exact .inr ⟨_, rfl, .cons (fun _ _ => rfl) (.word (by decide) .nil)⟩
  · exact .inr ⟨_, rfl, .word (by decide) .nil⟩
  · exact .inl rfl

theorem isClause_offsetTrees (window : Window) : IsClause "OFFSET" (offsetTrees window) := by
  unfold offsetTrees
  split
  · exact .inr ⟨_, rfl, avoid_number _⟩
  · exact .inl rfl

theorem isClause_headedTrees (keyword : String) {clauses : List (Connective × List Tree)}
    (avoid : Avoid clauseWords (chainTrees clauses)) :
    IsClause keyword (headedTrees keyword clauses) := by
  unfold headedTrees
  split
  · exact .inl rfl
  · exact .inr ⟨_, rfl, avoid⟩

/-! The statement around the clauses -/

/-- What a select without unions is made of, clause by clause. -/
structure Clauses (dialect : Dialect) (main front group order limit offset : List Tree)
    (wheres havings : List (Connective × List Tree)) : Prop where
  whole : main = front ++ (headedTrees "WHERE" wheres ++ (group ++ (headedTrees "HAVING" havings ++
    (order ++ (limit ++ offset)))))
  front : Avoid clauseWords front
  wheres : Avoid clauseWords (chainTrees wheres)
  group : IsClause "GROUP" group
  havings : Avoid clauseWords (chainTrees havings)
  order : IsClause "ORDER" order
  limit : IsClause "LIMIT" limit
  offset : IsClause "OFFSET" offset

theorem clauses_mainTrees {query : Query} (plain : query.PlainParts dialect .legible) :
    dialect.Clauses
      (dialect.mainTrees query.distinct query.columns query.table query.joins
        (dialect.clauseTrees query.wheres) query.groups (dialect.clauseTrees query.havings)
        query.window)
      (dialect.selectListTrees query.distinct query.columns ++ dialect.sourceTrees query.table ++
        query.joins.flatMap dialect.joinTrees)
      (dialect.groupTrees query.groups) (dialect.ordersTrees query.window.orders)
      (dialect.limitTrees query.window) (offsetTrees query.window)
      (dialect.clauseTrees query.wheres) (dialect.clauseTrees query.havings) where
  whole := by simp only [mainTrees, windowTrees, List.append_assoc]
  front := by
    refine ((avoid_selectListTrees _ plain.columns).append (avoid_sourceTrees plain.table)).append
      fun tree member => ?_
    obtain ⟨join, listed, within⟩ := List.mem_flatMap.mp member
    exact avoid_joinTrees (plain.joins join listed).1 (plain.joins join listed).2 tree within
  wheres := avoid_clauseTrees plain.wheres
  group := isClause_groupTrees plain.groups
  havings := avoid_clauseTrees plain.havings
  order := isClause_ordersTrees plain.window
  limit := isClause_limitTrees query.window
  offset := isClause_offsetTrees query.window

namespace Clauses

variable {main front group order limit offset rest : List Tree}
  {wheres havings : List (Connective × List Tree)}

/-- No other words that begin a clause stand in a select than those of its own clauses. -/
theorem avoid (clauses : dialect.Clauses main front group order limit offset wheres havings)
    {word : String} (listed : word ∈ clauseWords)
    (others : word ∉ ["where", "group", "having", "order", "limit", "offset"]) :
    Avoid [word] main := by
  simp only [List.mem_cons, List.not_mem_nil, or_false, not_or] at others
  rw [clauses.whole]
  refine .append (clauses.front.mono (by simpa using listed)) (.append ?_ (.append ?_ (.append ?_
    (.append ?_ (.append ?_ ?_)))))
  · exact (isClause_headedTrees "WHERE" clauses.wheres).avoid listed (Ne.symm others.1)
  · exact clauses.group.avoid listed (Ne.symm others.2.1)
  · exact (isClause_headedTrees "HAVING" clauses.havings).avoid listed (Ne.symm others.2.2.1)
  · exact clauses.order.avoid listed (Ne.symm others.2.2.2.1)
  · exact clauses.limit.avoid listed (Ne.symm others.2.2.2.2.1)
  · exact clauses.offset.avoid listed (Ne.symm others.2.2.2.2.2)

theorem clauseAfter_where
    (clauses : dialect.Clauses main front group order limit offset wheres havings)
    (stops : Stops rest) (behind : Avoid ["where"] rest) :
    clauseAfter? "where" (main ++ rest) =
      if wheres.isEmpty then none else some (chainTrees wheres) := by
  have before : Avoid ["where"] front := clauses.front.mono (by decide)
  have having := isClause_headedTrees "HAVING" clauses.havings
  rw [clauses.whole]
  split
  · rename_i none
    rw [headedTrees, if_pos none]
    exact clauseAfter?_of_avoid (.append (.append before (.append .nil (.append
      (clauses.group.avoid (by decide) (by decide)) (.append
        (having.avoid (by decide) (by decide)) (.append
          (clauses.order.avoid (by decide) (by decide)) (.append
            (clauses.limit.avoid (by decide) (by decide))
            (clauses.offset.avoid (by decide) (by decide)))))))) behind)
  · rename_i some
    have ends : Stops (group ++ (headedTrees "HAVING" havings ++
        (order ++ (limit ++ (offset ++ rest))))) :=
      clauses.group.stops (by decide) (having.stops (by decide) (clauses.order.stops (by decide)
        (clauses.limit.stops (by decide) (clauses.offset.stops (by decide) stops))))
    have found := @clauseAfter?_of_clause "where" "WHERE" _ _ _ (by decide) before clauses.wheres ends
    rw [headedTrees, if_neg some]
    simpa only [List.append_assoc] using found

theorem clauseAfter_having
    (clauses : dialect.Clauses main front group order limit offset wheres havings)
    (stops : Stops rest) (behind : Avoid ["having"] rest) :
    clauseAfter? "having" (main ++ rest) =
      if havings.isEmpty then none else some (chainTrees havings) := by
  have before : Avoid ["having"] (front ++ (headedTrees "WHERE" wheres ++ group)) :=
    .append (clauses.front.mono (by decide)) (.append
      ((isClause_headedTrees "WHERE" clauses.wheres).avoid (by decide) (by decide))
      (clauses.group.avoid (by decide) (by decide)))
  have shape : main ++ rest = front ++ (headedTrees "WHERE" wheres ++ group) ++
      (headedTrees "HAVING" havings ++ (order ++ (limit ++ (offset ++ rest)))) := by
    rw [clauses.whole]
    simp only [List.append_assoc]
  rw [shape]
  split
  · rename_i none
    have head : headedTrees "HAVING" havings = [] := if_pos none
    rw [head]
    exact clauseAfter?_of_avoid (.append before (.append .nil (.append
      (clauses.order.avoid (by decide) (by decide)) (.append
        (clauses.limit.avoid (by decide) (by decide)) (.append
          (clauses.offset.avoid (by decide) (by decide)) behind)))))
  · rename_i some
    have head : headedTrees "HAVING" havings = wordTree "HAVING" :: chainTrees havings :=
      if_neg some
    rw [head]
    exact clauseAfter?_of_clause (by decide) before clauses.havings
      (clauses.order.stops (by decide) (clauses.limit.stops (by decide)
        (clauses.offset.stops (by decide) stops)))

end Clauses

theorem firstSelect_of_avoid {trees rest : List Tree} (select : ∀ inner more,
    trees ++ rest ≠ .parens inner :: more) (avoid : Avoid ["union"] trees)
    (ends : ∀ tree ∈ rest.head?, tree.isWord "union" = true) :
    firstSelect (trees ++ rest) = trees := by
  have all : ∀ tree ∈ trees, (!tree.isWord "union") = true := by
    simpa [Avoid] using avoid
  have ended : rest.takeWhile (fun tree => !tree.isWord "union") = [] := by
    cases rest with
    | nil => rfl
    | cons tree rest => exact List.takeWhile_cons_of_neg (by simp [ends tree rfl])
  rw [firstSelect]
  · rw [List.takeWhile_append_of_pos all, ended, List.append_nil]
  · exact select

/-- What stands behind a select without unions: nothing, or a lock. -/
theorem isClause_lockTrees {kind : Lock} (plain : kind.IsPlain) :
    IsClause "FOR" (dialect.lockTrees kind) ∨ IsClause "LOCK" (dialect.lockTrees kind) := by
  unfold lockTrees
  split
  · exact plain.elim
  · exact .inl (.inl rfl)
  · exact .inl (.inr ⟨_, rfl, .word (by decide) .nil⟩)
  · exact .inr (.inr ⟨_, rfl, .word (by decide) (.word (by decide) (.word (by decide) .nil))⟩)
  · exact .inl (.inr ⟨_, rfl, .word (by decide) .nil⟩)

theorem avoid_lockTrees {kind : Lock} (plain : kind.IsPlain) {word : String}
    (listed : word ∈ clauseWords) (others : word ∉ ["for", "lock"]) :
    Avoid [word] (dialect.lockTrees kind) := by
  simp only [List.mem_cons, List.not_mem_nil, or_false, not_or] at others
  rcases @isClause_lockTrees dialect kind plain with clause | clause
  · exact clause.avoid listed (Ne.symm others.1)
  · exact clause.avoid listed (Ne.symm others.2)

theorem stops_lockTrees {kind : Lock} (plain : kind.IsPlain) :
    Stops (dialect.lockTrees kind) := by
  have behind : Stops [] := nofun
  rw [← List.append_nil (dialect.lockTrees kind)]
  rcases @isClause_lockTrees dialect kind plain with clause | clause
  · exact clause.stops (by decide) behind
  · exact clause.stops (by decide) behind

/-- The select in front of a union is the first one. -/
theorem firstSelect_of_union {main : List Tree} (opens : ∀ rest inner more,
    main ++ rest ≠ .parens inner :: more) (avoid : Avoid ["union"] main) (branch rest : List Tree) :
    firstSelect (dialect.unionSideTrees main ++ (wordTree "UNION" :: branch ++ rest)) = main := by
  have union : (wordTree "UNION").isWord "union" = true := by decide
  unfold unionSideTrees
  split
  · rfl
  · exact firstSelect_of_avoid (opens _) avoid (by rintro _ ⟨⟩; exact union)

/-- The first select of a statement, and what stands behind it if there are no unions. -/
theorem firstSelect_selectTrees {query : Query} (plain : query.PlainParts dialect .legible) :
    ∃ rest, firstSelect (dialect.selectTrees query) =
        dialect.mainTrees query.distinct query.columns query.table query.joins
          (dialect.clauseTrees query.wheres) query.groups (dialect.clauseTrees query.havings)
          query.window ++ rest ∧
      Stops rest ∧ Avoid ["where"] rest ∧ Avoid ["having"] rest := by
  have clauses := clauses_mainTrees plain
  have united := clauses.avoid (show "union" ∈ clauseWords by decide) (by decide)
  have lockPlain := plain.lock
  obtain ⟨columns, distinct, table, joins, wheres, groups, havings, window, unions, unionWindow,
    lock, aggregate⟩ := query
  have opens : ∀ rest inner more, dialect.mainTrees distinct columns table joins
      (dialect.clauseTrees wheres) groups (dialect.clauseTrees havings) window ++ rest ≠
        .parens inner :: more := by
    intro rest inner more same
    simp only [mainTrees, selectListTrees, List.cons_append] at same
    cases same
  rw [selectTrees]
  generalize dialect.mainTrees distinct columns table joins (dialect.clauseTrees wheres) groups
    (dialect.clauseTrees havings) window = main at united opens ⊢
  cases unions with
  | nil =>
      rw [branchTrees, unitedTrees, if_pos rfl]
      cases lock with
      | none =>
          have single := @firstSelect_of_avoid main [] (opens []) united (by rintro _ ⟨⟩)
          exact ⟨[], by simpa [lockedTrees] using single, by rintro _ ⟨⟩, .nil, .nil⟩
      | some kind =>
          have kindPlain := lockPlain kind rfl
          have behind := united.append (@avoid_lockTrees dialect kind kindPlain "union" (by decide)
            (by decide))
          have single := @firstSelect_of_avoid (main ++ dialect.lockTrees kind) []
            (by simpa using opens (dialect.lockTrees kind)) behind
            (by rintro _ ⟨⟩)
          exact ⟨dialect.lockTrees kind, by simpa [lockedTrees] using single,
            stops_lockTrees kindPlain,
            avoid_lockTrees kindPlain (by decide) (by decide),
            avoid_lockTrees kindPlain (by decide) (by decide)⟩
  | cons branch unions =>
      obtain ⟨inner, keepsDuplicates⟩ := branch
      refine ⟨[], ?_, by rintro _ ⟨⟩, .nil, .nil⟩
      rw [branchTrees, unitedTrees, if_neg (by simp), List.append_nil]
      cases lock <;> simpa [lockedTrees] using firstSelect_of_union opens united _ _

/-- A clause that is found where its conditions were written is read as these conditions. -/
theorem readClause_of_found {word text : String} {trees : List Tree} {members : List Clause}
    (plain : Clause.Plain dialect .legible members)
    (parsed : dialect.vendor.parse text = some trees)
    (found : clauseAfter? word (firstSelect trees) =
      if (dialect.clauseTrees members).isEmpty then none
      else some (chainTrees (dialect.clauseTrees members))) :
    dialect.readClause word text = some (disjuncts (Clause.conditions members)) := by
  rw [readClause, parsed, Option.bind_eq_bind, Option.bind_some, found]
  cases members with
  | nil => rw [clauseTrees]; rfl
  | cons clause members =>
      have whole := readChain_clauses plain (List.cons_ne_nil clause members)
      obtain ⟨connective, predicate⟩ := clause
      rw [if_neg (by rw [clauseTrees]; simp)]
      exact whole

/-- The conditions of both clauses of a select statement are read back. -/
theorem readClause_select {query : Query} (plain : query.PlainParts dialect .legible) :
    dialect.readClause "where" (dialect.select query) =
        some (disjuncts (Clause.conditions query.wheres)) ∧
      dialect.readClause "having" (dialect.select query) =
        some (disjuncts (Clause.conditions query.havings)) := by
  have parsed := (reads_select query (Query.plain_iff.mpr plain)).parse
  have clauses := clauses_mainTrees plain
  obtain ⟨rest, first, stops, whereless, havingless⟩ := firstSelect_selectTrees plain
  have whereFound := clauses.clauseAfter_where stops whereless
  have havingFound := clauses.clauseAfter_having stops havingless
  rw [← first] at whereFound havingFound
  exact ⟨readClause_of_found plain.wheres parsed whereFound,
    readClause_of_found plain.havings parsed havingFound⟩

end Dialect

/-- Reading the statement of an accepted chain gives back the predicates of its builder: the same
conditions in the same groups, with the same connectives. -/
theorem predicates_read_back (dialect : Dialect) (steps : List Step)
    (free : FreeSteps .legible steps)
    (accepted : (({ dialect } : Builder).run steps).fault = none) :
    let builder := ({ dialect } : Builder).run steps
    let wheres := Clause.conditions builder.query.wheres
    let havings := Clause.conditions builder.query.havings
    ∃ text, builder.sql = .ok text ∧
      dialect.readClause "where" text = some (disjuncts wheres) ∧
      connected (disjuncts wheres) = opened wheres ∧
      dialect.readClause "having" text = some (disjuncts havings) ∧
      connected (disjuncts havings) = opened havings := by
  intro builder wheres havings
  have read := Dialect.readClause_select (plain_of_free dialect free)
  refine ⟨dialect.select builder.query, ?_, read.1, connected_disjuncts wheres, read.2,
    connected_disjuncts havings⟩
  have spoken : builder.dialect = dialect := by
    rw [show builder = ({ dialect } : Builder).run steps from rfl, Builder.run_eq_calls,
      Builder.dialect_calls]
  rw [Builder.sql, Builder.sound, accepted, spoken]
  rfl

/-- Names that try to end a quote or a group, and predicates of several kinds. -/
def groupedSteps : List Step :=
  [.table (.named "users"),
    .whereCompare .and (.named "u.a\x22) OR (\x22b") "=" (.bound (.integer 1)),
    .whereGroup .or [.whereBetween .and false (.named "AND") (.bound (.integer 18))
        (.bound (.integer 30)), .whereIn .or true (.named "id") [],
      .whereInQuery .and false (.named "id") [.table (.named "votes"),
        .whereNull .or false (.named "n"), .union true [.table (.named "old_votes")]]],
    .whereDate .and .year (.named "born") ">=" (.bound (.integer 1990)),
    .groupBy [.named "u.team"], .having .and (.named "WHERE") "Not Like" (.bound (.text "x")),
    .lock .forUpdate]

theorem grouped_predicates_read_back :
    let dialect : Dialect := ⟨.mysql, "app_", .question⟩
    ∃ text, (({ dialect } : Builder).run groupedSteps).sql = .ok text ∧
      dialect.readClause "where" text = some [[.compare "u.a\x22) OR (\x22b" "="],
        [.group [[.between false "AND"], [.constant true, .inQuery false "id"]],
          .compareDate .year "born" ">="]] ∧
      dialect.readClause "having" text = some [[.compare "WHERE" "Not Like"]] := by
  intro dialect
  obtain ⟨text, written, wheres, -, havings, -⟩ := predicates_read_back dialect groupedSteps
    (by simp [groupedSteps, FreeSteps, Step.Free, Identifier.Within, Identifier.IsNamed,
      Operand.IsBound, Lock.IsPlain, Vocabulary.legible]; decide) rfl
  exact ⟨text, written, wheres, havings⟩

end SqlToolkit
