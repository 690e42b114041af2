import SqlToolkit.Proofs.Identifiers.Qualified
import SqlToolkit.Proofs.Markers.Spelling
import SqlToolkit.Query.Write
import SqlToolkit.Schema.Inspection
/-!
The names that lookups of a table bind as values, beside the name under which statements have that
table. Statements divide a name into schema, table and alias; a lookup binds the whole of it behind
the prefix, and so finds the table just if there is nothing to divide.
-/

namespace SqlToolkit

/-! The last name of a table -/

namespace Reference

/-- A character of a name that stands without quotes. -/
def isNameChar (c : Char) : Bool :=
  c.isAlphanum || c = '_' || c = '$' || 128 ≤ c.toNat

/-- A name with or without quotes, and what stands behind it. -/
def readName (quote : Char) (text : List Char) : Option (String × List Char) :=
  if text.takeWhile isNameChar = [] then readIdentifier quote text
  else some (String.ofList (text.takeWhile isNameChar), text.dropWhile isNameChar)

variable {quote : Char} {text content behind : List Char} {name : String}

theorem length_readName (read : readName quote text = some (name, behind)) :
    behind.length < text.length ∧ name.length + behind.length ≤ text.length := by
  unfold readName at read
  split_ifs at read with quoted
  · exact length_readIdentifier read
  · cases read
    have whole := congrArg List.length (List.takeWhile_append_dropWhile (p := isNameChar) (l := text))
    have filled := List.length_pos_of_ne_nil quoted
    rw [List.length_append] at whole
    rw [String.length_ofList]
    omega

/-- The last of some names with dots between them. -/
def lastName (quote : Char) (text : List Char) : Option String :=
  match _ : readName quote text with
  | some (_, '.' :: rest) => lastName quote rest
  | some (name, _) => some name
  | none => none
termination_by text.length
decreasing_by
  have shorter := (length_readName ‹_›).1
  rw [List.length_cons] at shorter
  omega

theorem lastName_dot {rest : List Char} (read : readName quote text = some (name, '.' :: rest)) :
    lastName quote text = lastName quote rest := by
  rw [lastName]
  split
  · rename_i found
    cases read.symm.trans found
    rfl
  · rename_i whole found
    cases read.symm.trans found
    exact absurd rfl (whole rest)
  · rename_i found
    cases read.symm.trans found

theorem lastName_last (read : readName quote text = some (name, behind))
    (whole : behind.head? ≠ some '.') : lastName quote text = some name := by
  rw [lastName]
  split
  · rename_i found
    cases read.symm.trans found
    exact absurd rfl whole
  · rename_i found
    cases read.symm.trans found
    rfl
  · rename_i found
    cases read.symm.trans found

/-- A name is not longer than the text that it is read from. -/
theorem length_lastName (read : lastName quote text = some name) : name.length ≤ text.length := by
  induction text using lastName.induct quote generalizing name with
  | case1 text first rest found ih =>
      have lengths := (length_readName found).2
      rw [lastName_dot found] at read
      have shorter := ih read
      rw [List.length_cons] at lengths
      omega
  | case2 text first behind whole found =>
      have lengths := (length_readName found).2
      have ends : behind.head? ≠ some '.' := by
        intro starts
        obtain ⟨rest, rfl⟩ := List.head?_eq_some_iff.mp starts
        exact whole rest rfl
      rw [lastName_last found ends] at read
      cases read
      omega
  | case3 text missing =>
      rw [lastName, missing] at read
      cases read

variable {dialect : Dialect} {rest : List Char}

theorem isNameChar_quote (vendor : Vendor) : isNameChar vendor.quote = false := by
  cases vendor <;> decide

theorem readName_quoted (name : String) (ends : rest.head? ≠ some dialect.vendor.quote) :
    readName dialect.vendor.quote ((dialect.quoted name).toList ++ rest) = some (name, rest) := by
  have unnamed : ((dialect.quoted name).toList ++ rest).takeWhile isNameChar = [] := by
    have opens := isNameChar_quote dialect.vendor
    have star : isNameChar '*' = false := by decide
    unfold Dialect.quoted
    split <;> simp [Text.enclosed, opens, star]
  rw [readName, if_pos unnamed]
  exact readIdentifier_quoted name ends

theorem lastName_path (first : String) (segments : List String)
    (ends : rest.head? ≠ some dialect.vendor.quote) (whole : rest.head? ≠ some '.') :
    lastName dialect.vendor.quote ((dialect.path (first :: segments)).toList ++ rest) =
      (first :: segments).getLast? := by
  induction segments generalizing first with
  | nil =>
      rw [Dialect.path, List.map_singleton, String.intercalate_singleton]
      exact lastName_last (readName_quoted first ends) whole
  | cons next segments ih =>
      have opens := (quote_ne dialect.vendor).2.1.symm
      rw [path_cons_cons, List.append_assoc, List.cons_append,
        lastName_dot (readName_quoted first (by simpa using opens)), ih next]
      rfl

theorem lastName_reference (reference : Reference) (named : reference.path ≠ []) :
    lastName dialect.vendor.quote (dialect.reference reference).toList =
      reference.path.getLast? := by
  obtain ⟨path, shown⟩ := reference
  obtain ⟨first, segments, rfl⟩ := List.exists_cons_of_ne_nil named
  cases shown with
  | none => simpa [Dialect.reference] using @lastName_path dialect [] first segments (by simp) (by simp)
  | some shown =>
      have opens := (quote_ne dialect.vendor).2.2.symm
      simpa [Dialect.reference] using
        @lastName_path dialect (" AS ".toList ++ (dialect.quoted shown).toList) first segments
          (by simpa using opens) (by simp)

end Reference

/-! Names without schema and alias -/

/-- The name in front of the alias. -/
def unaliasedName (name : String) : String :=
  match aliasPlace name.toList with
  | some place => beforeAlias name.toList place
  | none => name

/-- The name behind the schema. -/
def unqualifiedName (name : String) : String :=
  if '.' ∈ name.toList then String.ofList (behindDot name.toList) else name

theorem length_unaliasedName (name : String) :
    (unaliasedName name).length ≤ name.length ∧
      ((unaliasedName name).length = name.length → aliasPlace name.toList = none) := by
  unfold unaliasedName
  cases found : aliasPlace name.toList with
  | none => exact ⟨le_rfl, fun _ => rfl⟩
  | some place =>
      have within : place < name.length := by
        have starts := startsAlias_of_aliasPlace found
        by_contra beyond
        rw [List.drop_of_length_le (by rw [String.length_toList]; omega)] at starts
        cases starts
      have shorter := (trim_isInfix (name.toList.take place)).length_le
      rw [List.length_take] at shorter
      have length : (beforeAlias name.toList place).length =
          (Text.trim (name.toList.take place)).length := String.length_ofList
      simp only [length]
      exact ⟨by omega, by omega⟩

theorem length_unqualifiedName (name : String) :
    (unqualifiedName name).length ≤ name.length ∧
      ((unqualifiedName name).length = name.length → '.' ∉ name.toList) := by
  unfold unqualifiedName
  split_ifs with dotted
  · have whole := congrArg List.length (beforeDot_append_behindDot dotted)
    rw [List.length_append, List.length_cons, String.length_toList] at whole
    rw [String.length_ofList]
    exact ⟨by omega, by omega⟩
  · exact ⟨le_rfl, fun _ => dotted⟩

theorem unqualified_unaliased_eq_iff (name : String) :
    unqualifiedName (unaliasedName name) = name ↔
      aliasPlace name.toList = none ∧ '.' ∉ name.toList := by
  constructor
  · intro same
    obtain ⟨unaliasedLe, unaliased⟩ := length_unaliasedName name
    obtain ⟨unqualifiedLe, -⟩ := length_unqualifiedName (unaliasedName name)
    rw [same] at unqualifiedLe
    have plain := unaliased (Nat.le_antisymm unaliasedLe unqualifiedLe)
    have kept : unaliasedName name = name := by rw [unaliasedName, plain]
    rw [kept] at same
    exact ⟨plain, (length_unqualifiedName name).2 (congrArg String.length same)⟩
  · rintro ⟨plain, undotted⟩
    rw [unaliasedName, plain]
    exact if_neg undotted

namespace Dialect

variable {dialect : Dialect}

/-- The last identifier, without its quotes, of a table as statements name it. -/
def lastName? (dialect : Dialect) (table : Identifier) : Option String :=
  Reference.lastName dialect.vendor.quote (dialect.tableRef table).toList

theorem getLast?_tableIdentifiers (name : String) :
    (dialect.tableIdentifiers name).getLast? =
      some (dialect.tablePrefix ++ unqualifiedName name) := by
  unfold tableIdentifiers unqualifiedName
  split_ifs <;> rfl

theorem lastName?_named (name : String) :
    dialect.lastName? (.named name) =
      some (dialect.tablePrefix ++ unqualifiedName (unaliasedName name)) := by
  have last : (dialect.tableReference name).path.getLast? =
      some (dialect.tablePrefix ++ unqualifiedName (unaliasedName name)) := by
    rw [← getLast?_tableIdentifiers, tableReference, unaliasedName]
    cases aliasPlace name.toList <;> rfl
  rw [← last, lastName?]
  exact (congrArg _ (congrArg String.toList (table_eq_reference name))).trans
    (Reference.lastName_reference _ (tableReference_path_ne_nil name))

/-! Lookups -/

end Dialect

/-- The value behind the first text that ends in `text` and has a value behind it. -/
def Filled.valueBehind (text seen : List Char) : Filled → Option Value
  | [] => none
  | .char c :: rest => valueBehind text (seen ++ [c]) rest
  | .slot value :: rest =>
      if text.isSuffixOf seen then some value else valueBehind text [] rest

/-- How a condition on the names of tables begins. -/
def Vendor.nameComparison : Vendor → String
  | .sqlite => "name = "
  | _ => "table_name = "

namespace Dialect

variable {dialect : Dialect}

/-- The value with which a statement compares the names of tables. -/
def sought (dialect : Dialect) (statement : Statement) : Option Value :=
  (dialect.fill statement.sql statement.bindings).bind
    (Filled.valueBehind dialect.vendor.nameComparison.toList [])

/-- A statement looks for the name that other statements have for a table. -/
def Finds (dialect : Dialect) (table : Identifier) (statement : Statement) : Prop :=
  ∃ last, dialect.lastName? table = some last ∧ dialect.sought statement = some (.text last)

/-- A name without schema and alias, or, without a prefix, a fragment that is a single name. -/
def Direct (dialect : Dialect) : Identifier → Prop
  | .named name => aliasPlace name.toList = none ∧ '.' ∉ name.toList
  | .verbatim sql => dialect.tablePrefix = "" ∧ dialect.lastName? (.verbatim sql) = some sql

theorem finds_iff {table : Identifier} {statement : Statement}
    (sought : dialect.sought statement = some (.text (dialect.tablePrefix ++ table.text))) :
    dialect.Finds table statement ↔ dialect.Direct table := by
  have same : dialect.Finds table statement ↔
      dialect.lastName? table = some (dialect.tablePrefix ++ table.text) := by
    simp only [Finds, sought, Option.some.injEq, Value.text.injEq]
    exact ⟨fun ⟨_, found, same⟩ => same ▸ found, fun found => ⟨_, found, rfl⟩⟩
  rw [same]
  cases table with
  | named name =>
      rw [lastName?_named, Option.some.injEq, String.append_right_inj]
      exact unqualified_unaliased_eq_iff name
  | verbatim sql =>
      refine ⟨fun found => ?_, fun ⟨unprefixed, found⟩ => ?_⟩
      · have shorter := Reference.length_lastName found
        have prefixed : (dialect.tablePrefix ++ sql).length = dialect.tablePrefix.length + sql.length :=
          String.length_append _ _
        have whole : (dialect.tableRef (.verbatim sql)).toList.length = sql.length :=
          String.length_toList
        have unprefixed : dialect.tablePrefix = "" := by
          rw [← String.length_eq_zero_iff]
          simp only [Identifier.text] at shorter
          omega
        refine ⟨unprefixed, ?_⟩
        rwa [unprefixed, String.empty_append] at found
      · rw [unprefixed, String.empty_append]
        exact found

/-! What the lookups look for -/

end Dialect

theorem Filled.valueBehind_ofText (text seen : List Char) (front : String) (rest : Filled) :
    valueBehind text seen (ofText front ++ rest) = valueBehind text (seen ++ front.toList) rest := by
  have chars (front seen : List Char) :
      valueBehind text seen (front.map .char ++ rest) = valueBehind text (seen ++ front) rest := by
    induction front generalizing seen with
    | nil => simp
    | cons c front ih => simpa [valueBehind] using ih (seen ++ [c])
  exact chars front.toList seen

namespace Dialect

variable {dialect : Dialect}

/-- The value of the first marker is sought if it is compared with a name, else one behind it. -/
theorem sought_marked {front back : String} {filled : Filled} (first : dialect.Silent front)
    (ends : front.toList.getLast? ≠ some '%') (rest : dialect.Spells back filled)
    (starts : back.toList.head? ≠ some 's') (value : Value) :
    dialect.sought ⟨front ++ (dialect.marker.text ++ back), value :: filled.values⟩ =
      if dialect.vendor.nameComparison.toList.isSuffixOf front.toList then some value
      else filled.valueBehind dialect.vendor.nameComparison.toList [] := by
  have spelled := Spells.marked first ends rest starts value
  have put := spelled.fill_eq_some_iff.mpr (Filled.values_marked front value filled).symm
  rw [sought, put, Option.bind_some, Filled.valueBehind_ofText]
  rfl

theorem sought_compared {front back : String} {filled : Filled} (first : dialect.Silent front)
    (compared : dialect.vendor.nameComparison.toList <:+ front.toList)
    (rest : dialect.Spells back filled) (starts : back.toList.head? ≠ some 's') (value : Value) :
    dialect.sought ⟨front ++ (dialect.marker.text ++ back), value :: filled.values⟩ = some value := by
  have blank : dialect.vendor.nameComparison.toList.getLast? = some ' ' := by
    cases dialect.vendor <;> decide
  have ends : front.toList.getLast? ≠ some '%' := by
    obtain ⟨before, whole⟩ := compared
    rw [← whole, List.getLast?_append, blank]
    simp
  rw [sought_marked first ends rest starts, if_pos (List.isSuffixOf_iff_suffix.mpr compared)]

theorem sought_last {front : String} (first : dialect.Silent front)
    (compared : dialect.vendor.nameComparison.toList <:+ front.toList) (value : Value) :
    dialect.sought ⟨front ++ dialect.marker.text, [value]⟩ = some value := by
  have found := sought_compared first compared silent_empty (by simp) value
  rwa [String.append_empty, Filled.values_ofText] at found

end Dialect

namespace SchemaDialect

open Dialect

variable (dialect : SchemaDialect) (name : String)

/-- A listing of tables or of columns looks for the whole name behind the prefix. -/
theorem sought_informationSchema (server : dialect.vendor ≠ .sqlite) {columns relation : String}
    (inert : Inert columns) (inertToo : Inert relation) (back : String) (behind : Inert back)
    (starts : back.toList.head? ≠ some 's') :
    dialect.sought ⟨(dialect.informationSchema columns relation name).sql ++ back,
        (dialect.informationSchema columns relation name).bindings⟩ =
      some (dialect.storedName name) := by
  have select : Inert
      ("SELECT " ++ columns ++ " FROM information_schema." ++ relation ++ " WHERE ") := by
    have first : Inert "SELECT " := by decide
    have second : Inert " FROM information_schema." := by decide
    have third : Inert " WHERE " := by decide
    exact (((first.append inert).append second).append inertToo).append third
  have comparison : dialect.vendor.nameComparison = "table_name = " := by
    cases vendor : dialect.vendor <;> simp_all [Vendor.nameComparison]
  unfold informationSchema
  generalize "SELECT " ++ columns ++ " FROM information_schema." ++ relation ++ " WHERE " = text at *
  cases vendor : dialect.vendor with
  | sqlite => exact absurd vendor server
  | mysql =>
      have schema : Inert (text ++ "table_schema = ") := select.append (by decide)
      have passed : "table_name = ".toList.isSuffixOf (text ++ "table_schema = ").toList = false := by
        rw [List.isSuffixOf, String.toList_append, List.reverse_append]
        rfl
      have next : Inert " AND table_name = " := by decide
      have rest := @Spells.marked dialect.toDialect _ _ _ next.silent next.ends behind.silent starts
        (dialect.storedName name)
      have found := sought_marked schema.silent schema.ends rest (by simp) (.text dialect.database)
      rw [comparison, passed, Filled.valueBehind_ofText, Filled.values_marked,
        Filled.values_ofText] at found
      simp only [String.append_assoc] at found ⊢
      rw [found]
      rfl
  | postgres =>
      have named : Inert (text ++ "table_name = ") := select.append (by decide)
      have compared : dialect.vendor.nameComparison.toList <:+ (text ++ "table_name = ").toList := by
        rw [comparison, String.toList_append]
        exact List.suffix_append _ _
      cases dialect.searchSchema with
      | none =>
          have found := sought_compared named.silent compared behind.silent starts
            (dialect.storedName name)
          rw [Filled.values_ofText] at found
          simpa only [String.append_assoc] using found
      | some schema =>
          have next : Inert " AND table_schema = " := by decide
          have rest := @Spells.marked dialect.toDialect _ _ _ next.silent next.ends behind.silent
            starts (.text schema)
          have found := sought_compared named.silent compared rest (by simp)
            (dialect.storedName name)
          rw [Filled.values_marked, Filled.values_ofText] at found
          simpa only [String.append_assoc] using found

theorem sought_tableExists :
    dialect.sought (dialect.tableExists name) = some (dialect.storedName name) := by
  have server (other : dialect.vendor ≠ .sqlite) :
      dialect.sought (dialect.informationSchema "*" "tables" name) =
        some (dialect.storedName name) := by
    have star : Inert "*" := by decide
    have tables : Inert "tables" := by decide
    have found := sought_informationSchema dialect name other star tables "" (by decide) (by simp)
    simpa only [String.append_empty] using found
  cases vendor : dialect.vendor with
  | sqlite =>
      have master : dialect.Silent
          "SELECT * FROM sqlite_master WHERE type = \x27table\x27 AND name = " :=
        Silent.of_unmarked (by simp [quoteBehind, quoteAfter, isQuote, Vendor.quote, vendor]) (by simp)
      have found := sought_last master (by rw [vendor]; decide) (dialect.storedName name)
      simpa only [tableExists, vendor] using found
  | mysql => simpa only [tableExists, vendor] using server (by simp [vendor])
  | postgres => simpa only [tableExists, vendor] using server (by simp [vendor])

theorem sought_columnListing (server : dialect.vendor ≠ .sqlite) :
    dialect.sought (dialect.columnListing name) = some (dialect.storedName name) := by
  have listing : Inert "column_name" := by decide
  have aliased : Inert "column_name AS column_name" := by decide
  have columns : Inert "columns" := by decide
  have inOrder : Inert " ORDER BY ordinal_position" := by decide
  cases vendor : dialect.vendor with
  | sqlite => exact absurd vendor server
  | mysql =>
      have found := sought_informationSchema dialect name server aliased columns "" (by decide)
        (by simp)
      simpa only [columnListing, vendor, String.append_empty] using found
  | postgres =>
      have found := sought_informationSchema dialect name server listing columns _ inOrder (by simp)
      simpa only [columnListing, vendor] using found

/-- SQLite empties a table behind the row that counts the keys of the table. -/
theorem truncate_sqlite {dialect : Dialect} (sqlite : dialect.vendor = .sqlite) {query : Query}
    {table : Identifier} (target : query.table = some table) :
    ∃ counter,
      dialect.truncate query = .ok [counter, ⟨"DELETE FROM " ++ dialect.tableRef table, []⟩] ∧
      dialect.sought counter = some (.text (dialect.tablePrefix ++ table.text)) := by
  refine ⟨⟨"DELETE FROM sqlite_sequence WHERE name = " ++ dialect.marker.text,
    [.text (dialect.tablePrefix ++ table.text)]⟩, ?_, ?_⟩
  · simp only [truncate, targetTable, target, sqlite]
    rfl
  · have counter : Inert "DELETE FROM sqlite_sequence WHERE name = " := by decide
    exact sought_last counter.silent (by rw [sqlite]; decide) _

/-- A lookup finds the table that other statements name just if there is nothing in the name that
statements divide: neither a schema nor an alias, and, in a fragment, no quotes. -/
theorem lookups_find_table_iff :
    (∀ name, (dialect.Finds (.named name) (dialect.tableExists name) ↔
        dialect.Direct (.named name)) ∧
      (dialect.vendor ≠ .sqlite →
        (dialect.Finds (.named name) (dialect.columnListing name) ↔
          dialect.Direct (.named name)))) ∧
    (dialect.vendor = .sqlite → ∀ (query : Query) (table : Identifier), query.table = some table →
      ∃ counter,
        dialect.truncate query = .ok [counter, ⟨"DELETE FROM " ++ dialect.tableRef table, []⟩] ∧
        (dialect.Finds table counter ↔ dialect.Direct table)) := by
  refine ⟨fun name => ⟨?_, fun server => ?_⟩, fun sqlite query table target => ?_⟩
  · exact finds_iff (dialect.sought_tableExists name)
  · exact finds_iff (dialect.sought_columnListing name server)
  · obtain ⟨counter, truncated, sought⟩ := truncate_sqlite sqlite target
    exact ⟨counter, truncated, finds_iff sought⟩

theorem users_found :
    let server : SchemaDialect := ⟨⟨.mysql, "p_", .percent⟩, "app", none, none, none, none, none⟩
    let file : SchemaDialect := ⟨⟨.sqlite, "p_", .question⟩, "", none, none, none, none, none⟩
    server.vendor ≠ .sqlite ∧ file.vendor = .sqlite ∧
      server.Finds (.named "users") (server.tableExists "users") ∧
      server.Finds (.named "users") (server.columnListing "users") ∧
      ∃ query counter, query.table = some (.named "users") ∧
        file.truncate query = .ok [counter, ⟨"DELETE FROM " ++ file.tableRef (.named "users"), []⟩] ∧
        file.Finds (.named "users") counter := by
  intro server file
  have other : server.vendor ≠ .sqlite := by decide
  have sqlite : file.vendor = .sqlite := rfl
  have direct (dialect : Dialect) : dialect.Direct (.named "users") :=
    ⟨(by decide : aliasPlace "users".toList = none), (by decide : '.' ∉ "users".toList)⟩
  obtain ⟨exist, listed⟩ := (lookups_find_table_iff server).1 "users"
  obtain ⟨counter, truncated, found⟩ := (lookups_find_table_iff file).2 sqlite
    { table := some (.named "users") } (.named "users") rfl
  exact ⟨other, sqlite, exist.mpr (direct _), (listed other).mpr (direct _), _, counter, rfl,
    truncated, found.mpr (direct _)⟩

/-- A table behind a schema is not found, though other statements name it. -/
theorem schema_hides_table :
    let dialect : SchemaDialect := ⟨⟨.postgres, "p_", .percent⟩, "", none, none, none, none, none⟩
    dialect.table "s.users" = "\"s\".\"p_users\"" ∧
      dialect.lastName? (.named "s.users") = some "p_users" ∧
      dialect.sought (dialect.tableExists "s.users") = some (.text "p_s.users") ∧
      ¬ dialect.Finds (.named "s.users") (dialect.tableExists "s.users") := by
  intro dialect
  have named : dialect.lastName? (.named "s.users") = some "p_users" := lastName?_named "s.users"
  have sought := dialect.sought_tableExists "s.users"
  refine ⟨by decide, named, sought, ?_⟩
  rintro ⟨last, found, same⟩
  obtain rfl := Option.some.inj (named.symm.trans found)
  rw [sought, Option.some.injEq] at same
  exact absurd same (by decide)

end SchemaDialect

end SqlToolkit
