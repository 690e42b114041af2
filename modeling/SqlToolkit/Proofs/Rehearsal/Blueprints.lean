import SqlToolkit.Proofs.Alterations.Composition
import SqlToolkit.Proofs.Rehearsal.Programs
/-!
Blueprints without a database: which commands have the same statements whether or not their table
was inspected, and how the statements tell when it was.
-/

namespace SqlToolkit

/-! Commands that succeed one by one -/

section Commands

variable {ε α β : Type} {f : α → Except ε β} {items : List α} {results : List β}

theorem ok_of_bind {first : Except ε α} {next : α → Except ε β} {result : β}
    (succeeds : first >>= next = .ok result) :
    ∃ value, first = .ok value ∧ next value = .ok result := by
  cases first with
  | error error => cases succeeds
  | ok value => exact ⟨value, rfl, succeeds⟩

theorem of_mapM_cons {item : α} (succeeds : (item :: items).mapM f = .ok results) :
    ∃ result others, f item = .ok result ∧ items.mapM f = .ok others ∧
      results = result :: others := by
  rw [List.mapM_cons] at succeeds
  obtain ⟨result, first, succeeds⟩ := ok_of_bind succeeds
  obtain ⟨others, later, succeeds⟩ := ok_of_bind succeeds
  cases succeeds
  exact ⟨result, others, first, later, rfl⟩

theorem of_mapM (succeeds : items.mapM f = .ok results) :
    (∀ item ∈ items, ∃ result ∈ results, f item = .ok result) ∧
      ∀ result ∈ results, ∃ item ∈ items, f item = .ok result := by
  induction items generalizing results with
  | nil =>
      cases succeeds
      exact ⟨nofun, nofun⟩
  | cons item rest ih =>
      obtain ⟨result, others, first, later, rfl⟩ := of_mapM_cons succeeds
      obtain ⟨forth, back⟩ := ih later
      constructor
      · intro other member
        rcases List.mem_cons.mp member with rfl | inRest
        · exact ⟨result, List.mem_cons_self, first⟩
        · obtain ⟨found, inOthers, same⟩ := forth other inRest
          exact ⟨found, List.mem_cons_of_mem _ inOthers, same⟩
      · intro other member
        rcases List.mem_cons.mp member with rfl | inOthers
        · exact ⟨item, List.mem_cons_self, first⟩
        · obtain ⟨found, inRest, same⟩ := back other inOthers
          exact ⟨found, List.mem_cons_of_mem _ inRest, same⟩

end Commands

namespace SchemaDialect

variable {dialect : SchemaDialect} {blueprint : Blueprint} {context : TableContext}
  {command : Command} {texts : List String}

/-- What the database told does not matter to the statements of a command. -/
def Foresees (dialect : SchemaDialect) (context : TableContext) : Command → Prop
  | .change => dialect.vendor ≠ .sqlite
  | .dropColumns _ => dialect.vendor = .sqlite → context.columns = []
  | .renameColumn _ _ => dialect.vendor = .sqlite → context.foreignKeys = false
  | _ => True

theorem command_of_foresees (foreseen : dialect.Foresees context command) :
    dialect.command blueprint context command = dialect.command blueprint {} command := by
  cases vendor : dialect.vendor with
  | sqlite =>
      cases command with
      | change => exact absurd vendor foreseen
      | dropColumns columns =>
          have untold : context.columns = [] := foreseen vendor
          simp only [SchemaDialect.command, dropColumns, vendor, untold, if_true]
      | renameColumn column name =>
          have off : context.foreignKeys = false := foreseen vendor
          simp only [SchemaDialect.command, renameColumn, vendor, withoutForeignKeys, off]
      | _ => rfl
  | mysql | postgres =>
      cases command with
      | change => simp only [SchemaDialect.command, change, vendor]
      | dropColumns columns => simp only [SchemaDialect.command, dropColumns, vendor]
      | renameColumn column name => simp only [SchemaDialect.command, renameColumn, vendor]
      | _ => rfl

theorem statements_of_foresees
    (foreseen : ∀ command ∈ blueprint.commands, dialect.Foresees context command) :
    dialect.statements blueprint context = dialect.statements blueprint {} := by
  have same : blueprint.commands.mapM (dialect.command blueprint context) =
      blueprint.commands.mapM (dialect.command blueprint {}) :=
    mapM_congr fun command member => command_of_foresees (foreseen command member)
  rw [statements, statements, same]

theorem foresees_of_blind (blind : dialect.needsContext blueprint = false)
    (member : command ∈ blueprint.commands) : dialect.Foresees context command := by
  rw [needsContext, Bool.and_eq_false_iff, List.any_eq_false] at blind
  rcases blind with other | none
  · have elsewhere : dialect.vendor ≠ .sqlite := by simpa using other
    cases command with
    | change => exact elsewhere
    | dropColumns | renameColumn => exact fun sqlite => absurd sqlite elsewhere
    | _ => trivial
  · have free := none command member
    cases command with
    | change | dropColumns | renameColumn => simp at free
    | _ => trivial

/-! How the statements tell -/

/-- The beginnings of the statements that SQLite gets for an inspected table alone. -/
def informed (text : String) : Bool :=
  "PRAGMA ".toList.isPrefixOf text.toList || "CREATE TEMPORARY ".toList.isPrefixOf text.toList

theorem uninformed_alterTable (change : String) :
    informed (dialect.alterTable blueprint change) = false := by
  simp only [informed, alterTable, String.toList_append, List.append_assoc]
  rfl

theorem uninformed_createTable (table definitions options : String) :
    informed ("CREATE TABLE " ++ table ++ " (" ++ definitions ++ ")" ++ options) = false := by
  simp only [informed, String.toList_append, List.append_assoc]
  rfl

theorem uninformed_command (sqlite : dialect.vendor = .sqlite)
    (written : dialect.command blueprint {} command = .ok texts) :
    ∀ text ∈ texts, informed text = false := by
  cases command with
  | create =>
      cases written
      simp only [List.mem_singleton, forall_eq]
      exact uninformed_createTable _ _ _
  | add =>
      cases written
      simp only [add, sqlite, List.mem_map, forall_exists_index, and_imp]
      rintro _ definition - rfl
      exact uninformed_alterTable _
  | change =>
      simp only [SchemaDialect.command, change, sqlite, rebuildChanged, if_true] at written
      cases written
  | drop | dropIfExists =>
      cases written
      simp only [List.mem_singleton, forall_eq, informed, String.toList_append]
      rfl
  | rename name =>
      cases written
      simp only [List.mem_singleton, forall_eq, rename, sqlite]
      exact uninformed_alterTable _
  | dropColumns columns =>
      cases written
      simp only [dropColumns, sqlite, if_true, List.mem_map, forall_exists_index, and_imp]
      rintro _ column - rfl
      exact uninformed_alterTable _
  | renameColumn column name =>
      cases written
      simp only [renameColumn, sqlite, withoutForeignKeys, Bool.false_eq_true, if_false,
        List.mem_singleton, forall_eq]
      exact uninformed_alterTable _
  | primary index =>
      cases written
      simp [addPrimary, sqlite]
  | unique index =>
      cases written
      simp only [List.mem_singleton, forall_eq, addUnique, sqlite, informed, String.toList_append,
        List.append_assoc]
      rfl
  | index index =>
      cases written
      simp only [List.mem_singleton, forall_eq, addIndex, sqlite, informed, String.toList_append,
        List.append_assoc]
      rfl
  | foreign key =>
      cases written
      simp [addForeign, sqlite]
  | dropPrimary name =>
      simp only [SchemaDialect.command, dropPrimary, sqlite] at written
      cases written
  | dropUnique name =>
      cases written
      simp only [List.mem_singleton, forall_eq, dropUnique, sqlite, informed, String.toList_append]
      rfl
  | dropIndex name =>
      cases written
      simp only [List.mem_singleton, forall_eq, dropIndex, sqlite, informed, String.toList_append]
      rfl
  | dropForeign name =>
      simp only [SchemaDialect.command, dropForeign, sqlite] at written
      cases written

theorem informed_rebuild (definitions kept : List String) :
    ∃ text ∈ dialect.rebuild blueprint definitions kept context, informed text = true := by
  have copies : ∃ text ∈ dialect.rebuild blueprint definitions kept {}, informed text = true := by
    refine ⟨_, List.mem_cons_self, ?_⟩
    simp only [informed, String.toList_append, List.append_assoc]
    rfl
  obtain ⟨text, member, begins⟩ := copies
  refine ⟨text, ?_, begins⟩
  rw [rebuild, withoutForeignKeys]
  split
  · exact List.mem_append_left _ (List.mem_append_right _ member)
  · exact member

/-- A command of which the database told something is written without it, and fails, or it has a
statement that tells. -/
theorem informed_command (written : dialect.command blueprint context command = .ok texts)
    (unforeseen : ¬dialect.Foresees context command) :
    dialect.command blueprint {} command = .error (.changeWithoutColumns blueprint.table) ∨
      ∃ text ∈ texts, informed text = true := by
  cases command with
  | change =>
      have sqlite : dialect.vendor = .sqlite := Classical.byContradiction unforeseen
      left
      simp only [SchemaDialect.command, change, sqlite, rebuildChanged, if_true]
  | dropColumns columns =>
      obtain ⟨sqlite, told⟩ := Classical.not_imp.mp unforeseen
      cases written
      right
      simp only [dropColumns, sqlite, told, if_false]
      exact informed_rebuild _ _
  | renameColumn column name =>
      obtain ⟨sqlite, enforced⟩ := Classical.not_imp.mp unforeseen
      cases written
      right
      have switched : context.foreignKeys = true := by simpa using enforced
      simp only [renameColumn, sqlite, withoutForeignKeys, switched, if_true]
      exact ⟨_, List.mem_append_left _ (List.mem_append_left _ List.mem_cons_self), rfl⟩
  | _ => exact absurd trivial unforeseen

theorem of_statements (written : dialect.statements blueprint context = .ok texts) :
    (∀ command ∈ blueprint.commands, ∃ own, dialect.command blueprint context command = .ok own ∧
        ∀ text ∈ own, text ∈ texts) ∧
      ∀ text ∈ texts, ∃ command ∈ blueprint.commands, ∃ own,
        dialect.command blueprint context command = .ok own ∧ text ∈ own := by
  obtain ⟨lists, all, flat⟩ := ok_of_bind written
  cases flat
  obtain ⟨forth, back⟩ := of_mapM all
  constructor
  · intro command member
    obtain ⟨own, inLists, same⟩ := forth command member
    exact ⟨own, same, fun text inOwn => List.mem_flatten.mpr ⟨own, inLists, inOwn⟩⟩
  · intro text member
    obtain ⟨own, inLists, inOwn⟩ := List.mem_flatten.mp member
    obtain ⟨command, inCommands, same⟩ := back own inLists
    exact ⟨command, inCommands, own, same, inOwn⟩

theorem uninformed_statements (sqlite : dialect.vendor = .sqlite)
    (written : dialect.statements blueprint {} = .ok texts) : texts.countP informed = 0 := by
  refine List.countP_eq_zero.mpr fun text member => ?_
  obtain ⟨command, -, own, one, inOwn⟩ := (of_statements written).2 text member
  simp [uninformed_command sqlite one text inOwn]

/-- If a blueprint can be written without the database, and none of its statements tells that the
table was inspected, then the database told nothing that matters. -/
theorem foresees_of_uninformed {blind : List String}
    (written : dialect.statements blueprint context = .ok texts)
    (writtenBlind : dialect.statements blueprint {} = .ok blind)
    (none : texts.countP informed = 0) (member : command ∈ blueprint.commands) :
    dialect.Foresees context command := by
  refine Classical.byContradiction fun unforeseen => ?_
  obtain ⟨own, one, within⟩ := (of_statements written).1 command member
  rcases informed_command one unforeseen with fails | ⟨text, inOwn, begins⟩
  · obtain ⟨_, succeeds, -⟩ := (of_statements writtenBlind).1 command member
    rw [fails] at succeeds
    cases succeeds
  · exact List.countP_eq_zero.mp none text (within text inOwn) begins

/-! Inspecting a table -/

def inspection (dialect : SchemaDialect) (blueprint : Blueprint) : List Statement :=
  [⟨"PRAGMA foreign_keys", []⟩, ⟨dialect.tableInfo blueprint.table, []⟩]

theorem completes_readContext (sqlite : dialect.vendor = .sqlite) {statements : List Statement}
    (completes : (dialect.readContext blueprint).Completes statements context) :
    statements = dialect.inspection blueprint := by
  simp only [readContext, foreignKeysQuery?, columnsQuery?, sqlite] at completes
  rcases completes with _ | _ | ⟨switch, completes⟩
  rcases completes with _ | _ | ⟨columns, completes⟩
  cases completes
  rfl

theorem rehearsed_readContext (sqlite : dialect.vendor = .sqlite) :
    (dialect.readContext blueprint).rehearsed = ⟨dialect.inspection blueprint, .ok {}⟩ := by
  simp only [readContext, foreignKeysQuery?, columnsQuery?, sqlite]
  rfl

end SchemaDialect

end SqlToolkit
