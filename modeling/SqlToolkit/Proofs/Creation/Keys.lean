import SqlToolkit.Proofs.Alterations.Composition
/-!
Creating a table with its keys and indexes. Whether they are declared by a command or at a column,
each of them is written once: between the parentheses of the table, or in a statement of its own.
-/

namespace SqlToolkit

/-- A key or an index is declared. -/
def Command.declaresKey : Command → Bool
  | primary _ | unique _ | index _ | foreign _ => true
  | _ => false

/-- A key that is declared between the parentheses of the table. -/
def Vendor.inlines (vendor : Vendor) : Command → Bool
  | .primary _ | .foreign _ => vendor = .sqlite
  | _ => false

def createsTable (text : String) : Bool :=
  "CREATE TABLE ".toList.isPrefixOf text.toList

namespace Blueprint

variable {blueprint : Blueprint}

/-- The commands that are missing are appended once each. -/
theorem appendMissing_eq (commands more : List Command) :
    ∃ missing, appendMissing commands more = commands ++ missing ∧ missing.Nodup ∧
      ∀ command, command ∈ missing ↔ command ∈ more ∧ command ∉ commands := by
  induction more generalizing commands with
  | nil => exact ⟨[], (List.append_nil commands).symm, .nil, by simp⟩
  | cons next rest ih =>
      by_cases there : next ∈ commands
      · obtain ⟨missing, appended, distinct, listed⟩ := ih commands
        refine ⟨missing, by simpa [appendMissing, there] using appended, distinct, ?_⟩
        intro command
        rw [listed, List.mem_cons]
        constructor
        · rintro ⟨later, absent⟩
          exact ⟨.inr later, absent⟩
        · rintro ⟨rfl | later, absent⟩
          · exact absurd there absent
          · exact ⟨later, absent⟩
      · obtain ⟨missing, appended, distinct, listed⟩ := ih (commands ++ [next])
        have fresh : next ∉ missing := fun member => ((listed next).mp member).2 (by simp)
        refine ⟨next :: missing, ?_, List.nodup_cons.mpr ⟨fresh, distinct⟩, ?_⟩
        · simpa [appendMissing, there] using appended
        · intro command
          rw [List.mem_cons, listed, List.mem_cons, List.mem_append, List.mem_singleton]
          by_cases same : command = next
          · simp [same, there]
          · simp [same]

theorem declaresKey_of_mem_columnIndexes {column : Column} {command : Command}
    (member : command ∈ blueprint.columnIndexes column) : command.declaresKey = true := by
  unfold columnIndexes at member
  revert member
  cases column.primary <;> cases column.unique <;> cases column.index <;>
    simp +contextual [Command.declaresKey, or_imp]

/-- A blueprint that creates its table adds and changes nothing besides. -/
theorem leadingCommands_of_creates (creates : .create ∈ blueprint.commands) :
    blueprint.leadingCommands = [] :=
  if_pos (List.contains_iff_mem.mpr creates)

/-- The indexes of the columns come behind the commands, but for those that are among them. -/
theorem prepared_of_creates (creates : .create ∈ blueprint.commands) :
    ∃ missing, blueprint.prepared.commands = blueprint.commands ++ missing ∧ missing.Nodup ∧
      ∀ command, command ∈ missing ↔
        command ∈ blueprint.columns.flatMap blueprint.columnIndexes ∧
          command ∉ blueprint.commands := by
  obtain ⟨missing, appended, parts⟩ := appendMissing_eq blueprint.commands
    (blueprint.columns.flatMap blueprint.columnIndexes)
  refine ⟨missing, ?_, parts⟩
  rw [← appended, prepared, leadingCommands_of_creates creates]
  rfl

end Blueprint

namespace SchemaDialect

variable {dialect : SchemaDialect} {blueprint : Blueprint} {context : TableContext}
  {command : Command}

/-- What a key or an index is on, as it is written wherever it stands. -/
def keyText (dialect : SchemaDialect) : Command → String
  | .primary index => "PRIMARY KEY (" ++ dialect.columns index.columns ++ ")"
  | .foreign key => dialect.foreignClause key
  | .unique index | .index index => "(" ++ dialect.columns index.columns ++ ")"
  | _ => ""

/-- How a statement begins that declares a key or an index by itself. -/
def keyOpening (dialect : SchemaDialect) (blueprint : Blueprint) (command : Command) : String :=
  match dialect.vendor, command with
  | _, .primary _ => dialect.alterTable blueprint "ADD "
  | _, .foreign key => dialect.alterTable blueprint ("ADD CONSTRAINT " ++ key.name ++ " ")
  | .sqlite, .unique index =>
      "CREATE UNIQUE INDEX " ++ index.name ++ " ON " ++ dialect.tableOf blueprint ++ " "
  | .mysql, .unique index => dialect.alterTable blueprint ("ADD UNIQUE " ++ index.name)
  | .postgres, .unique index =>
      dialect.alterTable blueprint ("ADD CONSTRAINT " ++ index.name ++ " UNIQUE ")
  | .mysql, .index index => dialect.alterTable blueprint ("ADD INDEX " ++ index.name)
  | _, .index index => "CREATE INDEX " ++ index.name ++ " ON " ++ dialect.tableOf blueprint ++ " "
  | _, _ => ""

def keyStatement (dialect : SchemaDialect) (blueprint : Blueprint) (command : Command) : String :=
  dialect.keyOpening blueprint command ++ dialect.keyText command

/-- What stands behind the parentheses of a table. -/
def tableEnding (dialect : SchemaDialect) (blueprint : Blueprint) : String :=
  match dialect.vendor with
  | .mysql => dialect.tableOptions blueprint
  | _ => ""

/-- A table of these columns, with what else is declared between its parentheses. -/
def creation (dialect : SchemaDialect) (blueprint : Blueprint) (clauses : List String) : String :=
  "CREATE TABLE " ++ dialect.tableOf blueprint ++ " (" ++
    ", ".intercalate (blueprint.columns.map dialect.columnDefinition ++ clauses) ++ ")" ++
    dialect.tableEnding blueprint

/-! Single commands -/

theorem alterTable_append (change rest : String) :
    dialect.alterTable blueprint (change ++ rest) =
      dialect.alterTable blueprint change ++ rest := by
  simp only [alterTable, String.append_assoc]

theorem command_of_declaresKey (declares : command.declaresKey = true) :
    dialect.command blueprint context command =
      .ok (if dialect.vendor.inlines command then []
        else [dialect.keyStatement blueprint command]) := by
  have adds : "ADD PRIMARY KEY (" = "ADD " ++ "PRIMARY KEY (" := by decide
  cases command with
  | primary index =>
      cases vendor : dialect.vendor with
      | sqlite => simp [SchemaDialect.command, addPrimary, Vendor.inlines, vendor]
      | mysql | postgres =>
          unfold keyStatement keyText
          simp only [SchemaDialect.command, addPrimary, keyOpening, Vendor.inlines, vendor, adds,
            ← alterTable_append, ← String.append_assoc]
          rfl
  | unique | index | foreign =>
      unfold keyStatement keyText
      cases vendor : dialect.vendor <;>
        simp [SchemaDialect.command, addUnique, addIndex, addForeign, keyOpening, alterTable,
          Vendor.inlines, vendor, String.append_assoc]
  | _ => cases declares

theorem createsTable_keyStatement (declares : command.declaresKey = true) :
    createsTable (dialect.keyStatement blueprint command) = false := by
  cases command with
  | primary | unique | index | foreign =>
      cases vendor : dialect.vendor <;>
        simp only [createsTable, keyStatement, keyOpening, alterTable, vendor,
          String.toList_append, List.append_assoc] <;> rfl
  | _ => cases declares

theorem createsTable_creation (clauses : List String) :
    createsTable (dialect.creation blueprint clauses) = true := by
  unfold createsTable creation
  simp only [String.toList_append, List.append_assoc]
  rfl

/-! All commands -/

theorem statements_of_ok {own : Command → List String}
    (written : ∀ command ∈ blueprint.commands,
      dialect.command blueprint context command = .ok (own command)) :
    dialect.statements blueprint context = .ok (blueprint.commands.flatMap own) := by
  have all : blueprint.commands.mapM (dialect.command blueprint context) =
      .ok (blueprint.commands.map own) :=
    (mapM_congr written).trans List.mapM_pure
  rw [statements, all, List.flatMap_def]
  rfl

theorem flatMap_declaresKey (vendor : Vendor) (statement : Command → String)
    (commands : List Command) :
    (commands.flatMap fun command => if vendor.inlines command then [] else [statement command]) =
      (commands.filter fun command => !vendor.inlines command).map statement := by
  induction commands with
  | nil => rfl
  | cons command rest ih => cases inlined : vendor.inlines command <;> simp [inlined, ih]

theorem inlineKeys_eq (sqlite : dialect.vendor = .sqlite) :
    dialect.inlineKeys blueprint =
      (blueprint.commands.filter dialect.vendor.inlines).map dialect.keyText := by
  rw [← List.filterMap_eq_map, List.filterMap_filter]
  refine List.filterMap_congr fun command _ => ?_
  rw [sqlite]
  cases command <;> rfl

/-- A blueprint with its columns as they are without the indexes that they declare. -/
theorem create_eq (added : ∀ column ∈ blueprint.columns, column.changes = false) :
    dialect.create blueprint.prepared = dialect.creation blueprint
      ((blueprint.prepared.commands.filter dialect.vendor.inlines).map dialect.keyText) := by
  have all : blueprint.prepared.added = blueprint.prepared.columns := by
    refine List.filter_eq_self.mpr fun column member => ?_
    obtain ⟨declared, there, rfl⟩ := List.mem_map.mp member
    simpa using added declared there
  have same : dialect.columnDefinitions blueprint.prepared.added =
      blueprint.columns.map dialect.columnDefinition := by
    rw [all, columnDefinitions, Blueprint.prepared, List.map_map]
    rfl
  have outside : dialect.vendor ≠ .sqlite →
      blueprint.prepared.commands.filter dialect.vendor.inlines = [] := by
    intro other
    refine List.filter_eq_nil_iff.mpr fun command _ => ?_
    cases command <;> simp [Vendor.inlines, other]
  unfold create creation tableEnding
  rw [same]
  cases vendor : dialect.vendor with
  | sqlite =>
      rw [inlineKeys_eq vendor, vendor]
      rfl
  | mysql | postgres =>
      rw [← vendor, outside (by simp [vendor]), List.map_nil, List.append_nil, vendor]
      rfl

theorem countP_keyStatements {commands : List Command}
    (keys : ∀ command ∈ commands, command.declaresKey = true) (vendor : Vendor) :
    ((commands.filter fun command => !vendor.inlines command).map
      (dialect.keyStatement blueprint)).countP createsTable = 0 := by
  refine List.countP_eq_zero.mpr fun text member => ?_
  obtain ⟨command, listed, rfl⟩ := List.mem_map.mp member
  simp [createsTable_keyStatement (keys command (List.mem_filter.mp listed).1)]

/-- The statements of a creation with keys before and behind it. -/
theorem statements_prepared {before after : List Command}
    (added : ∀ column ∈ blueprint.columns, column.changes = false)
    (split : blueprint.prepared.commands = before ++ .create :: after)
    (keys : ∀ command ∈ before ++ after, command.declaresKey = true) :
    dialect.statements blueprint.prepared context =
      .ok ((before.filter fun command => !dialect.vendor.inlines command).map
          (dialect.keyStatement blueprint) ++
        dialect.creation blueprint
            (((before ++ after).filter dialect.vendor.inlines).map dialect.keyText) ::
          (after.filter fun command => !dialect.vendor.inlines command).map
            (dialect.keyStatement blueprint)) := by
  let own (command : Command) : List String :=
    if command = .create then [dialect.create blueprint.prepared]
    else if dialect.vendor.inlines command then [] else [dialect.keyStatement blueprint command]
  have ofKey {command : Command} (declares : command.declaresKey = true) : own command =
      if dialect.vendor.inlines command then [] else [dialect.keyStatement blueprint command] :=
    if_neg (by rintro rfl; cases declares)
  have written : ∀ command ∈ blueprint.prepared.commands,
      dialect.command blueprint.prepared context command = .ok (own command) := by
    rw [split]
    intro command member
    by_cases creates : command = .create
    · subst creates
      rfl
    · have declares : command.declaresKey = true := by
        refine keys command ?_
        simpa [creates] using member
      rw [command_of_declaresKey declares, ofKey declares]
      rfl
  have ofKeys {commands : List Command}
      (all : ∀ command ∈ commands, command.declaresKey = true) : commands.flatMap own =
        (commands.filter fun command => !dialect.vendor.inlines command).map
          (dialect.keyStatement blueprint) :=
    (List.flatMap_congr fun command member => ofKey (all command member)).trans
      (flatMap_declaresKey dialect.vendor _ commands)
  have clauses : blueprint.prepared.commands.filter dialect.vendor.inlines =
      (before ++ after).filter dialect.vendor.inlines := by
    rw [split, List.filter_append, List.filter_append]
    rfl
  obtain ⟨front, back⟩ := List.forall_mem_append.mp keys
  rw [statements_of_ok written, split, List.flatMap_append, List.flatMap_cons, ofKeys front,
    ofKeys back, ← clauses, ← create_eq added]
  rfl

/-- Every key and every index that a blueprint declares, by a command or at a column, is written
once if the blueprint creates its table: as a clause of the table, or as a statement of its own. -/
theorem keys_realised_once (dialect : SchemaDialect) {blueprint : Blueprint}
    (context : TableContext) (once : blueprint.commands.count .create = 1)
    (keys : ∀ command ∈ blueprint.commands, command ≠ .create → command.declaresKey = true)
    (added : ∀ column ∈ blueprint.columns, column.changes = false) :
    ∃ before after missing texts,
      blueprint.commands = before ++ .create :: after ∧
      blueprint.prepared.commands = before ++ .create :: (after ++ missing) ∧
      missing.Nodup ∧
      (∀ command, command ∈ missing ↔
        command ∈ blueprint.columns.flatMap blueprint.columnIndexes ∧
          command ∉ blueprint.commands) ∧
      dialect.statements blueprint.prepared context = .ok texts ∧
      texts =
        (before.filter fun command => !dialect.vendor.inlines command).map
            (dialect.keyStatement blueprint) ++
          dialect.creation blueprint
              (((before ++ (after ++ missing)).filter dialect.vendor.inlines).map
                dialect.keyText) ::
            ((after ++ missing).filter fun command => !dialect.vendor.inlines command).map
              (dialect.keyStatement blueprint) ∧
      texts.countP createsTable = 1 ∧
      (blueprint.commands.head? = some .create → before = []) := by
  have creates : .create ∈ blueprint.commands := List.count_pos_iff.mp (by omega)
  obtain ⟨before, after, split⟩ := List.append_of_mem creates
  have elsewhere : .create ∉ before ∧ .create ∉ after := by
    rw [split, List.count_append, List.count_cons_self] at once
    constructor <;> refine List.count_eq_zero.mp ?_ <;> omega
  obtain ⟨missing, commands, distinct, listed⟩ := Blueprint.prepared_of_creates creates
  have prepared : blueprint.prepared.commands = before ++ .create :: (after ++ missing) := by
    rw [commands, split, List.append_assoc]
    rfl
  have all : ∀ command ∈ before ++ (after ++ missing), command.declaresKey = true := by
    intro command member
    rcases List.mem_append.mp member with front | back
    · refine keys command (by simp [split, front]) ?_
      rintro rfl
      exact elsewhere.1 front
    · rcases List.mem_append.mp back with back | implied
      · refine keys command (by simp [split, back]) ?_
        rintro rfl
        exact elsewhere.2 back
      · obtain ⟨column, -, index⟩ := List.mem_flatMap.mp ((listed command).mp implied).1
        exact Blueprint.declaresKey_of_mem_columnIndexes index
  obtain ⟨front, back⟩ := List.forall_mem_append.mp all
  refine ⟨before, after, missing, _, split, prepared, distinct, listed,
    statements_prepared added prepared all, rfl, ?_, ?_⟩
  · rw [List.countP_append, countP_keyStatements front,
      List.countP_cons_of_pos (createsTable_creation _), countP_keyStatements back]
  · intro first
    cases before with
    | nil => rfl
    | cons head rest =>
        rw [split] at first
        cases first
        exact absurd List.mem_cons_self elsewhere.1

end SchemaDialect

/-- Accounts of the members of teams, one for each address. -/
def accounts : Blueprint where
  table := "accounts"
  columns := [{ Column.string "email" with primary := true, unique := true },
    { type := .integer, name := "team" }]
  commands := [.foreign ⟨"team_of", ["team"], ["id"], "teams", none, none⟩, .create,
    .unique ⟨"accounts_email_unique", ["email"]⟩]

set_option maxRecDepth 4000 in
/-- The index on the addresses, which is declared twice, is made once. -/
theorem accounts_realised_once :
    accounts.commands.count .create = 1 ∧
      (∀ command ∈ accounts.commands, command ≠ .create → command.declaresKey = true) ∧
      (∀ column ∈ accounts.columns, column.changes = false) ∧
      ∃ texts, sqliteDialect.statements accounts.prepared {} = .ok texts ∧
        texts.countP createsTable = 1 ∧
        texts = [
          "CREATE TABLE \"accounts\" (\"email\" VARCHAR NOT NULL, \"team\" INTEGER NOT NULL, " ++
            "FOREIGN KEY (\"team\") REFERENCES \"teams\" (\"id\"), PRIMARY KEY (\"email\"))",
          "CREATE UNIQUE INDEX accounts_email_unique ON \"accounts\" (\"email\")"] := by
  have once : accounts.commands.count .create = 1 := by decide
  have keys : ∀ command ∈ accounts.commands, command ≠ .create → command.declaresKey = true := by
    decide
  have added : ∀ column ∈ accounts.columns, column.changes = false := by decide
  obtain ⟨before, after, missing, texts, -, -, -, -, written, -, one, -⟩ :=
    SchemaDialect.keys_realised_once sqliteDialect {} once keys added
  refine ⟨once, keys, added, texts, written, one, ?_⟩
  have computed : sqliteDialect.statements accounts.prepared {} = .ok [
      "CREATE TABLE \"accounts\" (\"email\" VARCHAR NOT NULL, \"team\" INTEGER NOT NULL, " ++
        "FOREIGN KEY (\"team\") REFERENCES \"teams\" (\"id\"), PRIMARY KEY (\"email\"))",
      "CREATE UNIQUE INDEX accounts_email_unique ON \"accounts\" (\"email\")"] := by
    decide
  exact Except.ok.inj (written.symm.trans computed)

end SqlToolkit
