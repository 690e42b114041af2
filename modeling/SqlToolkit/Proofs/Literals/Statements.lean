import SqlToolkit.Proofs.Columns.Definitions
import SqlToolkit.Proofs.Literals.Strings
import SqlToolkit.Proofs.Rehearsal.Blueprints
/-!
The string literals in the statements of a blueprint: defaults, values of enumerations and comments.
Each of them stands apart from what is before and behind it, and a vendor reads it back as the text
that was given just if no escape changes the text.
-/

namespace SqlToolkit

/-- A text with string literals in it: what stands before each of them and what it says, and what
stands behind the last one. -/
structure Inscription where
  parts : List (String × String)
  ending : String

namespace Inscription

def text (inscription : Inscription) : String :=
  inscription.parts.foldr (fun part behind => part.1 ++ Text.enclosed '\x27' part.2 ++ behind)
    inscription.ending

def contents (inscription : Inscription) : List String :=
  inscription.parts.map (·.2)

end Inscription

/-- A text with these literals in it. What stands before a literal ends in a blank, a bracket or
punctuation, and what stands behind it begins in that way. -/
inductive Inscribed : String → List String → Prop where
  | plain (text : String) : Inscribed text []
  | literal {front behind : String} {contents : List String} (content : String)
      (ends : endsBroken front = true) (starts : startsBroken behind = true)
      (others : Inscribed behind contents) :
      Inscribed (front ++ Text.enclosed '\x27' content ++ behind) (content :: contents)

theorem enclosed_ne_empty (content : String) : Text.enclosed '\x27' content ≠ "" := by
  simp [Text.enclosed, ← String.toList_inj]

theorem startsBroken_enclosed (content behind : String) :
    startsBroken (Text.enclosed '\x27' content ++ behind) = false := by
  rw [startsBroken_append (enclosed_ne_empty content)]
  simp [startsBroken, Text.enclosed]
  decide

theorem head?_ne_quote {behind : String} (starts : startsBroken behind = true) :
    behind.toList.head? ≠ some '\x27' := by
  intro quote
  rw [startsBroken, quote] at starts
  cases starts

namespace Inscribed

variable {text left right front behind : String} {contents first second : List String}

theorem single (content : String) : Inscribed (Text.enclosed '\x27' content) [content] := by
  have literal : Inscribed ("" ++ Text.enclosed '\x27' content ++ "") [content] :=
    .literal content (by decide) (by decide) (.plain "")
  simpa using literal

/-- A text without literals in front, which ends where the literals may begin. -/
theorem after (front : String) (ends : endsBroken front = true)
    (inscribed : Inscribed text contents) : Inscribed (front ++ text) contents := by
  cases inscribed with
  | plain => exact .plain _
  | literal content endsToo starts others =>
      rename_i middle behind contents
      rw [← String.append_assoc, ← String.append_assoc]
      refine .literal content ?_ starts others
      by_cases empty : middle = ""
      · rwa [empty, String.append_empty]
      · rwa [endsBroken_append empty]

theorem append (inscribed : Inscribed left first) (next : Inscribed right second)
    (starts : startsBroken right = true) : Inscribed (left ++ right) (first ++ second) := by
  induction inscribed with
  | plain text =>
      cases next with
      | plain => exact .plain _
      | literal content ends startsToo others =>
          rename_i middle behind contents
          have filled : middle ≠ "" := by
            rintro rfl
            rw [String.empty_append, startsBroken_enclosed] at starts
            cases starts
          rw [← String.append_assoc, ← String.append_assoc]
          exact .literal content (by rwa [endsBroken_append filled]) startsToo others
  | literal content ends startsToo others ih =>
      rename_i front behind contents
      rw [String.append_assoc]
      refine .literal content ends ?_ ih
      by_cases empty : behind = ""
      · rwa [empty, String.empty_append]
      · rwa [startsBroken_append empty]

/-- A text without literals behind. -/
theorem before (behind : String) (starts : startsBroken behind = true)
    (inscribed : Inscribed text contents) : Inscribed (text ++ behind) contents := by
  simpa using inscribed.append (.plain behind) starts

/-- Texts behind a first one, each of which begins something new. -/
theorem concat {α : Type} {text : α → String} {contents : α → List String} {list : List α}
    (inscribed : Inscribed front first)
    (each : ∀ x ∈ list, Inscribed (text x) (contents x) ∧ startsBroken (text x) = true) :
    Inscribed (front ++ "".intercalate (list.map text)) (first ++ list.flatMap contents) := by
  induction list generalizing front first with
  | nil => simpa using inscribed
  | cons x list ih =>
      obtain ⟨⟨next, starts⟩, others⟩ := List.forall_mem_cons.mp each
      have whole := ih (inscribed.append next starts) others
      rw [List.map_cons, ← List.singleton_append, concat_append, List.flatMap_cons]
      simpa [String.append_assoc] using whole

/-- The parts of a text with literals, and how they stand apart. -/
theorem exists_inscription (inscribed : Inscribed text contents) :
    ∃ inscription : Inscription, inscription.text = text ∧ inscription.contents = contents ∧
      ∀ before front content after, inscription.parts = before ++ (front, content) :: after →
        endsBroken front = true ∧
          startsBroken (Inscription.text ⟨after, inscription.ending⟩) = true := by
  induction inscribed with
  | plain text =>
      refine ⟨⟨[], text⟩, rfl, rfl, fun before front content after split => ?_⟩
      simp at split
  | literal content ends starts others ih =>
      rename_i front behind contents
      obtain ⟨⟨parts, ending⟩, rfl, rfl, apart⟩ := ih
      refine ⟨⟨(front, content) :: parts, ending⟩, rfl, rfl, ?_⟩
      intro before other next after split
      cases before with
      | nil =>
          cases split
          exact ⟨ends, starts⟩
      | cons part before => exact apart before other next after (List.cons.inj split).2

end Inscribed

/-- Texts with these literals in all of them together. -/
inductive InscribedAll : List String → List String → Prop where
  | nil : InscribedAll [] []
  | cons {text : String} {contents : List String} {texts more : List String}
      (inscribed : Inscribed text contents) (others : InscribedAll texts more) :
      InscribedAll (text :: texts) (contents ++ more)

namespace InscribedAll

variable {α : Type} {list : List α} {texts others contents more : List String} {text : String}

theorem plain (texts : List String) : InscribedAll texts [] := by
  induction texts with
  | nil => exact .nil
  | cons text texts ih => exact .cons (.plain text) ih

theorem singleton (inscribed : Inscribed text contents) : InscribedAll [text] contents := by
  simpa using InscribedAll.cons inscribed .nil

theorem append (inscribed : InscribedAll texts contents) (next : InscribedAll others more) :
    InscribedAll (texts ++ others) (contents ++ more) := by
  induction inscribed with
  | nil => exact next
  | cons first rest ih =>
      rw [List.append_assoc]
      exact .cons first ih

theorem flatMap {texts contents : α → List String}
    (each : ∀ x ∈ list, InscribedAll (texts x) (contents x)) :
    InscribedAll (list.flatMap texts) (list.flatMap contents) := by
  induction list with
  | nil => exact .nil
  | cons x list ih =>
      obtain ⟨first, rest⟩ := List.forall_mem_cons.mp each
      exact first.append (ih rest)

theorem map {text : α → String} {contents : α → List String}
    (each : ∀ x ∈ list, Inscribed (text x) (contents x)) :
    InscribedAll (list.map text) (list.flatMap contents) := by
  rw [List.map_eq_flatMap]
  exact flatMap fun x member => singleton (each x member)

theorem intercalate (inscribed : InscribedAll texts contents) :
    Inscribed (", ".intercalate texts) contents := by
  induction inscribed with
  | nil => exact .plain _
  | cons first rest ih =>
      cases rest with
      | nil => simpa using first
      | cons next others =>
          rw [String.intercalate_cons_cons, String.append_assoc]
          refine first.append (ih.after ", " (by decide)) ?_
          rw [startsBroken_append (by decide)]
          decide

theorem exists_inscriptions (inscribed : InscribedAll texts contents) :
    ∃ inscriptions : List Inscription, texts = inscriptions.map Inscription.text ∧
      inscriptions.flatMap Inscription.contents = contents ∧
      ∀ inscription ∈ inscriptions, ∀ before front content after,
        inscription.parts = before ++ (front, content) :: after →
        endsBroken front = true ∧
          startsBroken (Inscription.text ⟨after, inscription.ending⟩) = true := by
  induction inscribed with
  | nil => exact ⟨[], rfl, rfl, nofun⟩
  | cons first rest ih =>
      obtain ⟨inscription, rfl, rfl, apart⟩ := first.exists_inscription
      obtain ⟨inscriptions, rfl, rfl, others⟩ := ih
      exact ⟨inscription :: inscriptions, rfl, rfl, List.forall_mem_cons.mpr ⟨apart, others⟩⟩

end InscribedAll

/-! Columns -/

/-- What a default says between its quotes. -/
def DefaultValue.quoted? : DefaultValue → Option String
  | null => none
  | boolean value => some (if value then "1" else "0")
  | integer value => some (toString value)
  | float value => some value.positional
  | text value => some value
  | verbatim _ => none

theorem DefaultValue.inscribed (value : DefaultValue) :
    Inscribed value.literal value.quoted?.toList := by
  cases value with
  | null => exact .plain _
  | boolean value =>
      have digit : '\x27' ∉ (if value then "1" else "0").toList := by cases value <;> decide
      have digits := Inscribed.single (if value then "1" else "0")
      rw [← enclosed_of_unquoted digit] at digits
      cases value <;> exact digits
  | integer value =>
      have digits := Inscribed.single (toString value)
      rwa [← enclosed_of_unquoted (unquoted_integer value)] at digits
  | float value =>
      have digits := Inscribed.single value.positional
      rwa [← enclosed_of_unquoted (unquoted_double value)] at digits
  | text value => exact .single value
  | verbatim sql => exact .plain sql

namespace SchemaDialect

variable {dialect : SchemaDialect} {column : Column} {blueprint : Blueprint}
  {context : TableContext} {texts : List String}

/-- The values of an enumeration, for the vendors that write them. -/
def typeLiterals (dialect : SchemaDialect) (column : Column) : List String :=
  if column.type = .enumeration ∧ dialect.vendor ≠ .sqlite then column.allowed else []

def modifierLiterals (column : Column) : Modifier → List String
  | .default => (column.default.bind DefaultValue.quoted?).toList
  | .comment => column.comment.toList
  | _ => []

/-- The literals in the definition of a column. -/
def columnLiterals (dialect : SchemaDialect) (column : Column) : List String :=
  dialect.typeLiterals column ++ dialect.vendor.modifiers.flatMap (modifierLiterals column)

theorem inscribed_quotedTexts (texts : List String) : Inscribed (quotedTexts texts) texts := by
  have all : InscribedAll (texts.map (Text.enclosed '\x27')) (texts.flatMap fun text => [text]) :=
    .map fun text _ => .single text
  simpa [quotedTexts] using all.intercalate

theorem inscribed_enumerationCheck :
    Inscribed (dialect.enumerationCheck column) column.allowed := by
  have front := (inscribed_quotedTexts column.allowed).after
    ("CHECK (" ++ dialect.column column.name ++ " IN (")
    (by rw [endsBroken_append (by decide)]; decide)
  simpa [enumerationCheck, String.append_assoc] using front.before "))" (by decide)

theorem inscribed_columnType :
    Inscribed (dialect.columnType column) (dialect.typeLiterals column) := by
  by_cases listed : column.type = .enumeration ∧ dialect.vendor ≠ .sqlite
  · obtain ⟨enumeration, other⟩ := listed
    rw [typeLiterals, if_pos ⟨enumeration, other⟩, columnType]
    cases vendor : dialect.vendor with
    | sqlite => exact absurd vendor other
    | mysql =>
        have front := (inscribed_quotedTexts column.allowed).after "ENUM(" (by decide)
        simpa [mysqlType, enumeration] using front.before ")" (by decide)
    | postgres =>
        have check := (@inscribed_enumerationCheck dialect column).after "VARCHAR(255) " (by decide)
        simpa [postgresType, enumeration] using check
  · rw [typeLiterals, if_neg listed]
    exact .plain _

/-- A modifier is left out, or it begins with a blank. -/
theorem startsBroken_modifier (modifier : Modifier) :
    startsBroken (dialect.modifier column modifier) = true := by
  have either (given : Bool) {left right : String} (first : startsBroken left = true)
      (second : startsBroken right = true) :
      startsBroken (if given then left else right) = true := by
    cases given with
    | true => exact first
    | false => exact second
  have optional {α : Type} (value : Option α) (word : String) (text : α → String)
      (filled : word ≠ "") (starts : startsBroken word = true) :
      startsBroken ((value.map (word ++ text ·)).getD "") = true := by
    cases value with
    | none => rfl
    | some x => rwa [Option.map_some, Option.getD_some, startsBroken_append filled]
  cases modifier with
  | unsigned => exact either _ (by decide) (by decide)
  | nullable => exact either _ (by decide) (by decide)
  | increment => exact either _ (by cases dialect.vendor <;> decide) (by decide)
  | charset => exact optional column.charset " CHARACTER SET " id (by decide) (by decide)
  | collation => exact optional column.collation " COLLATE " id (by decide) (by decide)
  | default =>
      exact optional column.default " DEFAULT " DefaultValue.literal (by decide) (by decide)
  | comment =>
      exact optional column.comment " COMMENT " (Text.enclosed '\x27') (by decide) (by decide)
  | after => exact optional column.after " AFTER " dialect.column (by decide) (by decide)

theorem inscribed_modifier (modifier : Modifier) :
    Inscribed (dialect.modifier column modifier) (modifierLiterals column modifier) := by
  cases modifier with
  | default =>
      cases given : column.default with
      | none => simpa [SchemaDialect.modifier, modifierLiterals, given] using Inscribed.plain ""
      | some value =>
          simpa [SchemaDialect.modifier, modifierLiterals, given]
            using value.inscribed.after " DEFAULT " (by decide)
  | comment =>
      cases given : column.comment with
      | none => simpa [SchemaDialect.modifier, modifierLiterals, given] using Inscribed.plain ""
      | some text =>
          simpa [SchemaDialect.modifier, modifierLiterals, given]
            using (Inscribed.single text).after " COMMENT " (by decide)
  | _ => exact .plain _

theorem inscribed_columnDefinition :
    Inscribed (dialect.columnDefinition column) (dialect.columnLiterals column) := by
  have type := (@inscribed_columnType dialect column).after (dialect.column column.name ++ " ")
    (by rw [endsBroken_append (by decide)]; decide)
  exact type.concat fun modifier _ => ⟨inscribed_modifier modifier, startsBroken_modifier modifier⟩

/-! Commands -/

/-- The literals in the statement that changes a column in place. -/
def alterLiterals (column : Column) : List String :=
  (column.default.bind DefaultValue.quoted?).toList ++
    if column.type = .enumeration then column.allowed else []

/-- The literals in the statements of a command. -/
def literals (dialect : SchemaDialect) (blueprint : Blueprint) (context : TableContext) :
    Command → List String
  | .create | .add => blueprint.added.flatMap dialect.columnLiterals
  | .change =>
      match dialect.vendor with
      | .sqlite => context.columns.flatMap fun info =>
          ((blueprint.changed.find? (·.name = info.name)).map dialect.columnLiterals).getD []
      | .mysql => blueprint.changed.flatMap dialect.columnLiterals
      | .postgres => blueprint.changed.flatMap alterLiterals
  | _ => []

theorem inscribed_alterTable {change : String} {contents : List String}
    (inscribed : Inscribed change contents) :
    Inscribed (dialect.alterTable blueprint change) contents := by
  have front := inscribed.after ("ALTER TABLE " ++ dialect.tableOf blueprint ++ " ")
    (by rw [endsBroken_append (by decide)]; decide)
  simpa [alterTable, String.append_assoc] using front

theorem inscribed_definitions (columns : List Column) :
    InscribedAll (dialect.columnDefinitions columns) (columns.flatMap dialect.columnLiterals) :=
  .map fun _ _ => inscribed_columnDefinition

/-- Definitions between the parentheses of a new table. -/
theorem inscribed_table {definitions contents : List String} (front options : String)
    (inscribed : InscribedAll definitions contents)
    (starts : startsBroken (")" ++ options) = true) :
    Inscribed (front ++ " (" ++ ", ".intercalate definitions ++ ")" ++ options) contents := by
  have whole := (inscribed.intercalate.after (front ++ " (")
    (by rw [endsBroken_append (by decide)]; decide)).before (")" ++ options) starts
  simpa [String.append_assoc] using whole

theorem inscribed_create :
    Inscribed (dialect.create blueprint) (blueprint.added.flatMap dialect.columnLiterals) := by
  have definitions := @inscribed_definitions dialect blueprint.added
  have starts : ∀ options : String, startsBroken (")" ++ options) = true := fun options => by
    rw [startsBroken_append (by decide)]
    decide
  unfold create
  cases dialect.vendor with
  | sqlite =>
      have parts := definitions.append (.plain (dialect.inlineKeys blueprint))
      rw [List.append_nil] at parts
      exact inscribed_table _ _ parts (starts _)
  | mysql | postgres => exact inscribed_table _ _ definitions (starts _)

theorem inscribed_add :
    InscribedAll (dialect.add blueprint) (blueprint.added.flatMap dialect.columnLiterals) := by
  have words : ∀ text : String, endsBroken text = true → InscribedAll
      ((dialect.columnDefinitions blueprint.added).map (text ++ ·))
      (blueprint.added.flatMap dialect.columnLiterals) := by
    intro text ends
    rw [columnDefinitions, List.map_map]
    exact .map fun column _ => inscribed_columnDefinition.after text ends
  unfold add
  cases dialect.vendor with
  | sqlite =>
      dsimp only
      rw [columnDefinitions, List.map_map]
      exact .map fun column _ =>
        inscribed_alterTable (inscribed_columnDefinition.after "ADD COLUMN " (by decide))
  | mysql => exact .singleton (inscribed_alterTable (words "ADD " (by decide)).intercalate)
  | postgres =>
      exact .singleton (inscribed_alterTable (words "ADD COLUMN " (by decide)).intercalate)

theorem inscribed_changedDefinition (changed : List Column) (info : ColumnInfo) :
    Inscribed (dialect.changedDefinition changed info)
      (((changed.find? (·.name = info.name)).map dialect.columnLiterals).getD []) := by
  unfold changedDefinition
  cases changed.find? (·.name = info.name) with
  | none => exact .plain _
  | some column => exact inscribed_columnDefinition

/-- A rebuild writes definitions in one of its statements only. -/
theorem inscribed_rebuild {definitions kept contents : List String}
    (inscribed : InscribedAll definitions contents) :
    InscribedAll (dialect.rebuild blueprint definitions kept context) contents := by
  have table := inscribed_table ("CREATE TABLE " ++ dialect.tableOf blueprint) "" inscribed
    (by decide)
  rw [String.append_empty] at table
  have statements := fun front behind : List String =>
    ((InscribedAll.plain front).append (.singleton table)).append (.plain behind)
  simp only [List.nil_append, List.append_nil] at statements
  unfold rebuild withoutForeignKeys
  split
  · exact statements ["PRAGMA foreign_keys = OFF", _, _] [_, _, "PRAGMA foreign_keys = ON"]
  · exact statements [_, _] [_, _]

theorem inscribed_rebuildChanged
    (written : dialect.rebuildChanged blueprint context = .ok texts) :
    InscribedAll texts (context.columns.flatMap fun info =>
      ((blueprint.changed.find? (·.name = info.name)).map dialect.columnLiterals).getD []) := by
  unfold rebuildChanged at written
  split at written
  · cases written
  · cases written
    refine inscribed_rebuild ?_
    have definitions := InscribedAll.map fun info (_ : info ∈ context.columns) =>
      @inscribed_changedDefinition dialect blueprint.changed info
    simpa using definitions.append (.plain _)

theorem inscribed_alterColumn :
    InscribedAll (dialect.alterColumn blueprint column) (alterLiterals column) := by
  have alter : endsBroken ("ALTER COLUMN " ++ dialect.column column.name ++ " ") = true := by
    rw [endsBroken_append (by decide)]
    decide
  unfold alterColumn alterLiterals
  refine .append ?_ ?_
  · refine ((InscribedAll.plain [_, _]).append (.singleton (Inscribed.after _ alter ?_)))
    cases column.default with
    | none => exact .plain _
    | some value => exact value.inscribed.after "SET DEFAULT " (by decide)
  · split
    · refine (InscribedAll.plain [_]).append (.singleton (inscribed_enumerationCheck.after _ ?_))
      rw [endsBroken_append (by decide)]
      decide
    · exact .nil

theorem inscribed_change (written : dialect.change blueprint context = .ok texts) :
    InscribedAll texts (dialect.literals blueprint context .change) := by
  unfold change at written
  unfold literals
  cases vendor : dialect.vendor with
  | sqlite =>
      rw [vendor] at written
      exact inscribed_rebuildChanged written
  | mysql =>
      rw [vendor] at written
      cases written
      have changes := InscribedAll.map fun column (_ : column ∈ blueprint.changed) =>
        (@inscribed_columnDefinition dialect column).after
          ("CHANGE " ++ dialect.column column.name ++ " ")
          (by rw [endsBroken_append (by decide)]; decide)
      exact .singleton (inscribed_alterTable changes.intercalate)
  | postgres =>
      rw [vendor] at written
      cases written
      have changes := InscribedAll.flatMap fun column (_ : column ∈ blueprint.changed) =>
        @inscribed_alterColumn dialect column blueprint
      exact .singleton (inscribed_alterTable changes.intercalate)

theorem inscribed_command {command : Command}
    (written : dialect.command blueprint context command = .ok texts) :
    InscribedAll texts (dialect.literals blueprint context command) := by
  cases command with
  | create =>
      cases written
      exact .singleton inscribed_create
  | add =>
      cases written
      exact inscribed_add
  | change => exact inscribed_change written
  | _ => exact .plain _

theorem inscribed_commands {commands : List Command} {parts : List (List String)}
    (written : commands.mapM (dialect.command blueprint context) = .ok parts) :
    InscribedAll parts.flatten (commands.flatMap (dialect.literals blueprint context)) := by
  induction commands generalizing parts with
  | nil =>
      cases written
      exact .nil
  | cons command commands ih =>
      obtain ⟨first, others, single, later, rfl⟩ := of_mapM_cons written
      exact (inscribed_command single).append (ih later)

/-- Every literal in the statements of a blueprint stands apart from what is before and behind it.
Its vendor reads it as the text that was given, and goes on behind it, just if no escape changes the
text: on MySQL every backslash has to stand before a wildcard. -/
theorem literals_read_back_iff (dialect : SchemaDialect) (blueprint : Blueprint)
    (context : TableContext) {texts : List String}
    (written : dialect.statements blueprint context = .ok texts) :
    ∃ inscriptions : List Inscription,
      texts = inscriptions.map Inscription.text ∧
      inscriptions.flatMap Inscription.contents =
        blueprint.commands.flatMap (dialect.literals blueprint context) ∧
      ∀ inscription ∈ inscriptions, ∀ before front content after,
        inscription.parts = before ++ (front, content) :: after →
        let behind := (Inscription.text ⟨after, inscription.ending⟩).toList
        endsBroken front = true ∧
          (dialect.vendor.readLiteral? ((Text.enclosed '\x27' content).toList ++ behind) =
              some (content.toList, behind) ↔
            dialect.vendor.Unescaped content.toList) := by
  obtain ⟨parts, compiled, written⟩ := ok_of_bind written
  cases written
  obtain ⟨inscriptions, texts, contents, apart⟩ :=
    (inscribed_commands compiled).exists_inscriptions
  refine ⟨inscriptions, texts, contents, ?_⟩
  intro inscription member before front content after split
  obtain ⟨ends, starts⟩ := apart inscription member before front content after split
  exact ⟨ends, Vendor.readLiteral?_enclosed_iff (head?_ne_quote starts)⟩

end SchemaDialect

/-- Notes of kinds with a quote and a wildcard in them. -/
def notesTable : Blueprint where
  table := "notes"
  columns := [{ type := .enumeration, name := "kind", allowed := ["it's", "100%"],
                comment := some "by \\_id" }]
  commands := [.create]

/-- A backslash does no harm before a wildcard. -/
theorem notes_read_back :
    let dialect : SchemaDialect := { vendor := .mysql, tablePrefix := "", marker := .question }
    let text := "CREATE TABLE `notes` " ++
      "(`kind` ENUM('it''s', '100%') NOT NULL COMMENT 'by \\_id')"
    dialect.statements notesTable {} = .ok [text] ∧
      ∃ inscription : Inscription, inscription.text = text ∧
        inscription.contents = ["it's", "100%", "by \\_id"] ∧
        ∀ before front content after, inscription.parts = before ++ (front, content) :: after →
          let behind := (Inscription.text ⟨after, inscription.ending⟩).toList
          dialect.vendor.readLiteral? ((Text.enclosed '\x27' content).toList ++ behind) =
            some (content.toList, behind) := by
  intro dialect text
  have written : dialect.statements notesTable {} = .ok [text] := by decide
  refine ⟨written, ?_⟩
  obtain ⟨inscriptions, texts, contents, apart⟩ :=
    SchemaDialect.literals_read_back_iff dialect notesTable {} written
  obtain ⟨inscription, rfl, whole⟩ := List.map_eq_singleton_iff.mp texts.symm
  have listed : inscription.contents = ["it's", "100%", "by \\_id"] := by
    simpa using contents.trans (by decide : _ = ["it's", "100%", "by \\_id"])
  refine ⟨inscription, whole, listed, fun before front content after split => ?_⟩
  have member : content ∈ ["it's", "100%", "by \\_id"] := by
    rw [← listed, Inscription.contents, split]
    simp
  have unescaped : ∀ content ∈ ["it's", "100%", "by \\_id"],
      Vendor.mysql.Unescaped content.toList := by
    simp [Vendor.unescaped_cons_iff, Vendor.Unescaped.nil]
  exact (apart inscription (by simp) before front content after split).2.mpr
    (unescaped content member)

/-- A folder for a default, and a comment behind it. -/
def folderColumn : Column :=
  { Column.string "folder" with default := some (.text "C:\\"), comment := some "x" }

/-- The literal of the default does not end before the comment begins. -/
theorem backslash_runs_into_comment :
    let dialect : SchemaDialect := { vendor := .mysql, tablePrefix := "", marker := .question }
    dialect.columnDefinition folderColumn =
        "`folder` VARCHAR(255) NOT NULL DEFAULT " ++ "'C:\\' COMMENT 'x'" ∧
      Vendor.mysql.readLiteral? "'C:\\' COMMENT 'x'".toList =
        some ("C:' COMMENT ".toList, "x'".toList) := by
  decide

end SqlToolkit
