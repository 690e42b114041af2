import SqlToolkit.Proofs.Changes.Basic
import SqlToolkit.Proofs.Identifiers.Qualified
import SqlToolkit.Proofs.Precedence.Branches
/-!
The table that a joined delete deletes from, beside the FROM that introduces it. The statement is
divided at the words that stand outside of quotes, and so is the table that is introduced: its name
in the statement is what stands behind its AS, or else the whole of it.
-/

namespace SqlToolkit

/-! The first ` as ` of a name -/

theorem startsAlias_eq_isPrefixOf (text : List Char) :
    startsAlias text = " as ".toList.isPrefixOf (text.map Char.toLower) := by
  rw [startsAlias, Bool.eq_iff_iff, List.isPrefixOf_iff_prefix, List.prefix_iff_eq_take,
    decide_eq_true_iff, List.map_take, eq_comm]
  rfl

/-- The first ` as ` of a text is the one that is found in its small letters. -/
theorem aliasPlace_eq_place? (text : List Char) :
    aliasPlace text = Text.place? " as ".toList (text.map Char.toLower) := by
  induction text with
  | nil => rfl
  | cons c rest ih =>
      rw [aliasPlace_cons, startsAlias_eq_isPrefixOf, ih]
      rfl

theorem startsAlias_of_prefix {front text : List Char} (leads : front <+: text)
    (starts : startsAlias front = true) : startsAlias text = true := by
  obtain ⟨a, s, tail, rfl, letters⟩ := startsAlias_iff.mp starts
  obtain ⟨rest, rfl⟩ := leads
  exact startsAlias_iff.mpr ⟨a, s, tail ++ rest, rfl, letters⟩

theorem aliasPlace_of_isInfix {part text : List Char} (inside : part <:+: text)
    (unaliased : aliasPlace text = none) : aliasPlace part = none := by
  obtain ⟨left, right, rfl⟩ := inside
  cases found : aliasPlace part with
  | none => rfl
  | some place =>
      -- A ` as ` in a part is one in the whole text, so many characters later as stand to the left.
      have leads : part.drop place <+: (left ++ part ++ right).drop (left.length + place) := by
        rw [List.append_assoc, ← List.drop_drop, List.drop_left]
        exact (List.prefix_append part right).drop place
      have starts := startsAlias_of_prefix leads (startsAlias_of_aliasPlace found)
      exact absurd unaliased (aliasPlace_ne_none starts)

/-- No ` as ` begins in front of the first one. -/
theorem aliasPlace_take {text : List Char} {place : Nat} (found : aliasPlace text = some place) :
    aliasPlace (text.take place) = none := by
  induction text generalizing place with
  | nil => cases found
  | cons c rest ih =>
      rw [aliasPlace_cons] at found
      split_ifs at found with starts
      · cases found
        rfl
      · obtain ⟨before, there, rfl⟩ := Option.map_eq_some_iff.mp found
        have other : startsAlias (c :: rest.take before) = false := by
          refine Bool.eq_false_iff.mpr fun early => starts ?_
          exact startsAlias_of_prefix (List.take_prefix (before + 1) (c :: rest)) early
        exact aliasPlace_cons_eq_none.mpr ⟨other, ih there⟩

theorem aliasPlace_beforeAlias {text : List Char} {place : Nat}
    (found : aliasPlace text = some place) :
    aliasPlace (beforeAlias text place).toList = none := by
  rw [beforeAlias, String.toList_ofList]
  exact aliasPlace_of_isInfix (trim_isInfix _) (aliasPlace_take found)

/-! The statement, divided at its words -/

/-- A word between blanks. -/
def spaced (word : String) : List Char :=
  ' ' :: (word.toList ++ [' '])

/-- One of the words stands at the beginning of the text, between blanks. -/
def startsWord (words : List String) (text : List Char) : Bool :=
  words.any fun word => (spaced word).isPrefixOf text

/-- The text up to the first of the words outside of quotes, and the text from there on. -/
def divide (quote : Char) (words : List String) :
    (quoted : Bool) → List Char → Option (List Char × List Char)
  | _, [] => none
  | true, c :: rest =>
      (divide quote words (c ≠ quote) rest).map fun (before, behind) => (c :: before, behind)
  | false, c :: rest =>
      if startsWord words (c :: rest) then some ([], c :: rest)
      else
        (divide quote words (c = quote) rest).map fun (before, behind) => (c :: before, behind)

/-- The name that a table has in a statement: the text behind its AS, or the whole of it. -/
def correlationName (quote : Char) (table : List Char) : List Char :=
  match divide quote ["AS"] false table with
  | some (_, behind) => behind.drop (spaced "AS").length
  | none => table

/-- The reference to what a reference introduces: its alias, or else the reference itself. -/
def Reference.introduced (reference : Reference) : Reference :=
  match reference.shown with
  | some shown => ⟨[shown], none⟩
  | none => reference

/-- The words with which the joins of a statement begin. -/
def joinWords : List String :=
  [JoinKind.inner, .left, .right, .cross].map fun kind => kind.text ++ " JOIN"

/-- A delete with joins: what it deletes from, the table that its FROM introduces, and the rest. -/
structure JoinedDelete where
  target : List Char
  table : List Char
  joins : List Char
  deriving DecidableEq, Repr

def JoinedDelete.read (quote : Char) (text : List Char) : Option JoinedDelete := do
  guard ("DELETE ".toList.isPrefixOf text)
  let (target, behind) ← divide quote ["FROM"] false (text.drop "DELETE ".length)
  let (table, joins) ← divide quote joinWords false (behind.drop (spaced "FROM").length)
  return ⟨target, table, joins⟩

section Words

variable {quote : Char} {words : List String} {rest : List Char}

/-- The two parts of a text with another text in front of it. -/
def behindText (front : List Char) (parts : Option (List Char × List Char)) :
    Option (List Char × List Char) :=
  parts.map fun (before, behind) => (front ++ before, behind)

@[simp] theorem behindText_append (left right : List Char)
    (parts : Option (List Char × List Char)) :
    behindText left (behindText right parts) = behindText (left ++ right) parts := by
  cases parts <;> simp [behindText]

theorem startsWord_of_unblank {c : Char} (unblank : c ≠ ' ') :
    startsWord words (c :: rest) = false := by
  simp [startsWord, spaced, unblank.symm]

theorem startsWord_of_other {c : Char}
    (other : ∀ word ∈ words, (word.toList ++ [' ']).head? ≠ some c) :
    startsWord words (' ' :: c :: rest) = false := by
  refine List.any_eq_false.mpr fun word member starts => other word member ?_
  obtain ⟨tail, same⟩ := (List.cons_prefix_cons.mp (List.isPrefixOf_iff_prefix.mp starts)).2
  cases letters : word.toList with
  | nil =>
      rw [letters] at same
      exact congrArg some (List.cons.inj same).1
  | cons first letters =>
      rw [letters] at same
      exact congrArg some (List.cons.inj same).1

theorem divide_starts {c : Char} (starts : startsWord words (c :: rest) = true) :
    divide quote words false (c :: rest) = some ([], c :: rest) :=
  if_pos starts

theorem divide_plain {c : Char} (other : startsWord words (c :: rest) = false) (plain : c ≠ quote) :
    divide quote words false (c :: rest) = behindText [c] (divide quote words false rest) := by
  rw [divide, other, decide_eq_false plain]
  rfl

theorem divide_opening (unblank : quote ≠ ' ') :
    divide quote words false (quote :: rest) =
      behindText [quote] (divide quote words true rest) := by
  rw [divide, startsWord_of_unblank unblank, decide_eq_true rfl]
  rfl

theorem divide_doubled (unblank : quote ≠ ' ') (text : List Char) :
    divide quote words true (Text.doubled quote text ++ quote :: rest) =
      behindText (Text.doubled quote text ++ [quote]) (divide quote words false rest) := by
  have inside (c : Char) (rest : List Char) :
      divide quote words true (c :: rest) = behindText [c] (divide quote words (c ≠ quote) rest) :=
    rfl
  induction text with
  | nil => simp [Text.doubled, inside]
  | cons c text ih =>
      by_cases same : c = quote
      · -- Of the doubled quote the first one closes and the second one opens again.
        simp [Text.doubled, same, inside, divide_opening unblank, ih]
      · simp [Text.doubled, same, inside, ih]

end Words

namespace Dialect

variable {dialect : Dialect} {words : List String} {rest : List Char}

theorem divide_quoted (name : String) :
    divide dialect.vendor.quote words false ((dialect.quoted name).toList ++ rest) =
      behindText (dialect.quoted name).toList
        (divide dialect.vendor.quote words false rest) := by
  obtain ⟨star, -, unblank⟩ := Reference.quote_ne dialect.vendor
  unfold quoted
  split
  case isTrue => exact divide_plain (startsWord_of_unblank (by decide)) star.symm
  case isFalse =>
    rw [Text.enclosed, String.toList_ofList, List.cons_append, List.cons_append,
      List.append_assoc, List.singleton_append, divide_opening unblank, divide_doubled unblank,
      behindText_append]
    rfl

theorem divide_path (segments : List String) :
    divide dialect.vendor.quote words false ((dialect.path segments).toList ++ rest) =
      behindText (dialect.path segments).toList
        (divide dialect.vendor.quote words false rest) := by
  have dot := (Reference.quote_ne dialect.vendor).2.1.symm
  induction segments with
  | nil =>
      cases found : divide dialect.vendor.quote words false rest <;> simp [path, found, behindText]
  | cons first segments ih =>
      cases segments with
      | nil =>
          rw [path, List.map_singleton, String.intercalate_singleton]
          exact divide_quoted first
      | cons next segments =>
          rw [Reference.path_cons_cons, List.append_assoc, List.cons_append, divide_quoted,
            divide_plain (startsWord_of_unblank (by decide)) dot, ih, behindText_append,
            behindText_append, List.append_assoc, List.singleton_append]

theorem quoted_starts (name : String) :
    ∃ c rest, (dialect.quoted name).toList = c :: rest ∧ (c = '*' ∨ c = dialect.vendor.quote) := by
  unfold quoted
  split
  case isTrue => exact ⟨'*', [], rfl, .inl rfl⟩
  case isFalse => exact ⟨_, _, String.toList_ofList, .inr rfl⟩

/-- The words begin otherwise than AS and than an identifier, which stand behind blanks as well. -/
def Distinct (dialect : Dialect) (words : List String) : Prop :=
  ∀ c ∈ ['A', '*', dialect.vendor.quote], ∀ word ∈ words, (word.toList ++ [' ']).head? ≠ some c

theorem divide_as (distinct : dialect.Distinct words)
    (other : startsWord words (' ' :: rest) = false) :
    divide dialect.vendor.quote words false (" AS ".toList ++ rest) =
      behindText " AS ".toList (divide dialect.vendor.quote words false rest) := by
  have blank := (Reference.quote_ne dialect.vendor).2.2.symm
  have letters : 'A' ≠ dialect.vendor.quote ∧ 'S' ≠ dialect.vendor.quote := by
    cases dialect.vendor <;> decide
  change divide dialect.vendor.quote words false (' ' :: 'A' :: 'S' :: ' ' :: rest) = _
  rw [divide_plain (startsWord_of_other (distinct 'A' (by simp))) blank,
    divide_plain (startsWord_of_unblank (by decide)) letters.1,
    divide_plain (startsWord_of_unblank (by decide)) letters.2, divide_plain other blank]
  simp

theorem divide_reference (distinct : dialect.Distinct words) (reference : Reference) :
    divide dialect.vendor.quote words false ((dialect.reference reference).toList ++ rest) =
      behindText (dialect.reference reference).toList
        (divide dialect.vendor.quote words false rest) := by
  obtain ⟨path, shown⟩ := reference
  cases shown with
  | none => simpa [Dialect.reference] using divide_path path
  | some shown =>
      -- The blank behind AS begins no word, since a quote or a star follows.
      obtain ⟨c, tail, starts, opens⟩ := @quoted_starts dialect shown
      have other : startsWord words (' ' :: ((dialect.quoted shown).toList ++ rest)) = false := by
        rw [starts]
        refine startsWord_of_other (distinct c ?_)
        rcases opens with rfl | rfl <;> simp
      rw [Dialect.reference, Option.elim_some, String.toList_append, String.toList_append,
        List.append_assoc, List.append_assoc, divide_path, divide_as distinct other, divide_quoted,
        behindText_append, behindText_append, List.append_assoc]

/-! What a reference introduces -/

theorem correlationName_reference (reference : Reference) :
    correlationName dialect.vendor.quote (dialect.reference reference).toList =
      (dialect.reference reference.introduced).toList := by
  obtain ⟨path, shown⟩ := reference
  cases shown with
  | none =>
      have whole := @divide_path dialect ["AS"] [] path
      rw [List.append_nil] at whole
      simp [Dialect.reference, Reference.introduced, correlationName, whole, divide, behindText]
  | some shown =>
      let behind := ' ' :: 'A' :: 'S' :: ' ' :: (dialect.quoted shown).toList
      have divided :
          divide dialect.vendor.quote ["AS"] false ((dialect.path path).toList ++ behind) =
            some ((dialect.path path).toList, behind) := by
        rw [divide_path, divide_starts rfl]
        simp [behindText, behind]
      have written : (dialect.reference ⟨path, some shown⟩).toList =
          (dialect.path path).toList ++ behind := by
        simp [Dialect.reference, behind]
      rw [correlationName, written, divided]
      simp [Dialect.reference, Reference.introduced, Dialect.path, behind]
      rfl

example :
    correlationName '\x22' "\"p AS users\" AS \"p AS u\"".toList = "\"p AS u\"".toList := by
  decide

/-- The base of a name with an alias is a name without one, so that it is written as itself. -/
theorem table_aliased {name : String} {place : Nat} (found : aliasPlace name.toList = some place) :
    dialect.table name =
      dialect.table (beforeAlias name.toList place) ++ " AS " ++
        dialect.quoted (dialect.tablePrefix ++ behindAlias name.toList place) := by
  have base := aliasPlace_beforeAlias found
  rw [table, table, splitAlias_eq, splitAlias_eq, found, base]
  rfl

theorem deleteTarget_eq (name : String) :
    dialect.deleteTarget (.named name) =
      match aliasPlace name.toList with
      | some place => dialect.quoted (dialect.tablePrefix ++ behindAlias name.toList place)
      | none => dialect.table name := by
  have lowered : (Text.asciiLower name).toList = name.toList.map Char.toLower :=
    String.toList_ofList
  rw [deleteTarget, lowered, ← aliasPlace_eq_place?]
  rfl

theorem deleteTarget_eq_introduced (name : String) :
    dialect.deleteTarget (.named name) =
      dialect.reference (dialect.tableReference name).introduced := by
  rw [deleteTarget_eq, table_eq_reference, tableReference]
  cases aliasPlace name.toList <;> simp [Reference.introduced, reference, path]

/-! The statement -/

theorem joins_cons (join : Join) (rest : List Join) :
    ∃ word ∈ joinWords, ∃ behind, dialect.joins (join :: rest) = word ++ " " ++ behind := by
  have listed : join.kind.text ++ " JOIN" ∈ joinWords :=
    List.mem_map.mpr ⟨join.kind, by cases join.kind <;> simp, rfl⟩
  have first : ∃ behind, dialect.join join = join.kind.text ++ " JOIN" ++ " " ++ behind := by
    unfold Dialect.join
    split_ifs with bare
    · exact ⟨dialect.tableRef join.table, by rw [bare.1]; rfl⟩
    · exact ⟨dialect.tableRef join.table ++ " ON " ++ dialect.joinConditions join,
        by simp [String.append_assoc]⟩
  obtain ⟨behind, written⟩ := first
  refine ⟨_, listed, behind ++ String.join ((rest.map dialect.join).map (" " ++ ·)), ?_⟩
  rw [joins, List.map_cons, intercalate_cons, written, String.append_assoc]

theorem delete_joined {query : Query} {table : Identifier} (mysql : dialect.vendor = .mysql)
    (named : query.table = some table) (joined : query.joins ≠ []) :
    ∃ word ∈ joinWords, ∃ behind sql, dialect.delete query = .ok sql ∧
      sql.toList = "DELETE ".toList ++ ((dialect.deleteTarget table).toList ++
        (spaced "FROM" ++ ((dialect.tableRef table).toList ++ (spaced word ++ behind)))) := by
  obtain ⟨first, rest, same⟩ := List.exists_cons_of_ne_nil joined
  obtain ⟨word, listed, behind, written⟩ := @joins_cons dialect first rest
  refine ⟨word, listed, behind.toList ++ (behindBlank (dialect.whereClause query.wheres)).toList, _,
    delete_eq_ok_iff.mpr ⟨table, named, Arranged.joined mysql joined⟩, ?_⟩
  rw [same, written, joinParts_cons (by simp)]
  simp [partsBehind, behindBlank, spaced]

theorem distinct_from : dialect.Distinct ["FROM"] := by
  unfold Distinct
  cases dialect.vendor <;> simp [Vendor.quote]

theorem distinct_joinWords : dialect.Distinct joinWords := by
  unfold Distinct
  cases dialect.vendor <;> simp [joinWords, JoinKind.text, Vendor.quote]

/-- A reference is divided from a word behind it. -/
theorem divide_behind {word : String} (distinct : dialect.Distinct words) (member : word ∈ words)
    (reference : Reference) (behind : List Char) :
    divide dialect.vendor.quote words false
        ((dialect.reference reference).toList ++ (spaced word ++ behind)) =
      some ((dialect.reference reference).toList, spaced word ++ behind) := by
  have starts : startsWord words (spaced word ++ behind) = true :=
    List.any_eq_true.mpr
      ⟨word, member, List.isPrefixOf_iff_prefix.mpr (List.prefix_append _ _)⟩
  have here : divide dialect.vendor.quote words false (spaced word ++ behind) =
      some ([], spaced word ++ behind) := divide_starts starts
  rw [divide_reference distinct, here]
  simp [behindText]

theorem read_joined {word : String} (member : word ∈ joinWords) (target table : Reference)
    (behind : List Char) :
    JoinedDelete.read dialect.vendor.quote
        ("DELETE ".toList ++ ((dialect.reference target).toList ++
          (spaced "FROM" ++ ((dialect.reference table).toList ++ (spaced word ++ behind))))) =
      some ⟨(dialect.reference target).toList, (dialect.reference table).toList,
        spaced word ++ behind⟩ := by
  have opened (rest : List Char) : "DELETE ".toList.isPrefixOf ("DELETE ".toList ++ rest) = true :=
    List.isPrefixOf_iff_prefix.mpr (List.prefix_append _ _)
  have listed : "FROM" ∈ ["FROM"] := List.mem_singleton_self _
  have length : "DELETE ".length = "DELETE ".toList.length := rfl
  rw [JoinedDelete.read, opened, length, List.drop_left, divide_behind distinct_from listed]
  simp [divide_behind distinct_joinWords member]

/-- A joined delete of MySQL deletes from the name that its FROM introduces: from the alias of the
table, prefix and all, where the name has one, and from the table as it is written where not. -/
theorem joined_delete_names_introduced (dialect : Dialect) (mysql : dialect.vendor = .mysql)
    {query : Query} {name : String} (named : query.table = some (.named name))
    (joined : query.joins ≠ []) :
    ∃ sql statement, dialect.delete query = .ok sql ∧
      JoinedDelete.read dialect.vendor.quote sql.toList = some statement ∧
      statement.table = (dialect.table name).toList ∧
      statement.target = correlationName dialect.vendor.quote statement.table ∧
      match aliasPlace name.toList with
      | some place =>
          let shown := dialect.quoted (dialect.tablePrefix ++ behindAlias name.toList place)
          statement.target = shown.toList ∧
            statement.table =
              (dialect.table (beforeAlias name.toList place) ++ " AS " ++ shown).toList
      | none => statement.target = statement.table := by
  obtain ⟨word, member, behind, sql, compiled, text⟩ := delete_joined mysql named joined
  have read := @read_joined dialect _ member (dialect.tableReference name).introduced
    (dialect.tableReference name) behind
  rw [← deleteTarget_eq_introduced, ← table_eq_reference] at read
  refine ⟨sql, _, compiled, (congrArg _ text).trans read, rfl, ?_, ?_⟩
  · rw [table_eq_reference, correlationName_reference, deleteTarget_eq_introduced]
  · dsimp only
    rw [deleteTarget_eq]
    cases found : aliasPlace name.toList with
    | some place => exact ⟨rfl, congrArg String.toList (table_aliased found)⟩
    | none => rfl

/-- The alias stands behind the first ` as `, in any letters, without the blanks around it. -/
theorem aliased_users_named_by_alias :
    let dialect : Dialect := ⟨.mysql, "p_", .question⟩
    let name := "shop.users AS  u as v "
    let query : Query := { table := some (.named name), joins := [⟨.cross, .named "contacts", []⟩] }
    dialect.vendor = .mysql ∧ query.table = some (.named name) ∧ query.joins ≠ [] ∧
      ∃ sql statement, dialect.delete query = .ok sql ∧
        JoinedDelete.read dialect.vendor.quote sql.toList = some statement ∧
        statement.table = (dialect.table name).toList ∧
        statement.target = correlationName dialect.vendor.quote statement.table ∧
        statement.target = (dialect.quoted "p_u as v").toList ∧
        statement.table =
          (dialect.table "shop.users" ++ " AS " ++ dialect.quoted "p_u as v").toList := by
  intro dialect name query
  have joined : query.joins ≠ [] := List.cons_ne_nil _ _
  have place : aliasPlace name.toList = some 10 := by decide
  have base : beforeAlias name.toList 10 = "shop.users" := by decide
  have shown : dialect.tablePrefix ++ behindAlias name.toList 10 = "p_u as v" := by decide
  obtain ⟨sql, statement, compiled, read, table, target, aliased⟩ :=
    @joined_delete_names_introduced dialect rfl query name rfl joined
  rw [place] at aliased
  dsimp only at aliased
  rw [base, shown] at aliased
  exact ⟨rfl, rfl, joined, sql, statement, compiled, read, table, target, aliased⟩

end Dialect

end SqlToolkit
