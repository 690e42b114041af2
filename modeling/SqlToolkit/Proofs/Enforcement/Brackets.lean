import SqlToolkit.Proofs.Rebuilds.Relations
import SqlToolkit.Proofs.Rehearsal.Blueprints
/-!
The enforcement of foreign keys between the statements of a blueprint. A rebuild and a renaming
switch it off in front of their own statements and on again behind them, so that it is switched off
just for as long as only a part of these statements was taken.
-/

namespace SqlToolkit

open RowStorage (switch?)

/-- Whether foreign keys are enforced behind these statements. -/
def enforcedAfter (before : Bool) (texts : List String) : Bool :=
  texts.foldl (fun enforced text => (switch? text).getD enforced) before

section Statements

variable {before : Bool} {texts more : List String} {text : String}

theorem enforcedAfter_append :
    enforcedAfter before (texts ++ more) = enforcedAfter (enforcedAfter before texts) more :=
  List.foldl_append

/-- Statements that switch nothing. -/
def Silent (texts : List String) : Prop :=
  ∀ text ∈ texts, switch? text = none

theorem enforcedAfter_of_silent (silent : Silent texts) : enforcedAfter before texts = before := by
  induction texts with
  | nil => rfl
  | cons text rest ih =>
      obtain ⟨first, others⟩ := List.forall_mem_cons.mp silent
      rw [enforcedAfter, List.foldl_cons, first]
      exact ih others

theorem switch?_of_begins {front : String} (rest : String)
    (other : ¬front.toList <+: "PRAGMA foreign_keys = ON".toList ∧
      ¬front.toList <+: "PRAGMA foreign_keys = OFF".toList) :
    switch? (front ++ rest) = none := by
  have unlike {setting : String} (differs : ¬front.toList <+: setting.toList) :
      front ++ rest ≠ setting := by
    rintro rfl
    exact differs (by simp)
  rw [switch?, if_neg (unlike other.1), if_neg (unlike other.2)]

theorem switch?_of_uninformed (uninformed : SchemaDialect.informed text = false) :
    switch? text = none := by
  have unlike {setting : String} (tells : SchemaDialect.informed setting = true) :
      text ≠ setting := by
    rintro rfl
    rw [uninformed] at tells
    cases tells
  rw [switch?, if_neg (unlike (by decide)), if_neg (unlike (by decide))]

end Statements

/-! Commands -/

/-- The command switches the enforcement of foreign keys off and on again. -/
def Command.switches (context : TableContext) : Command → Bool
  | change | renameColumn _ _ => context.foreignKeys
  | dropColumns _ => context.foreignKeys && !context.columns.isEmpty
  | _ => false

theorem Command.foreignKeys_of_switches {context : TableContext} {command : Command}
    (switches : command.switches context = true) : context.foreignKeys = true := by
  cases command with
  | change | renameColumn => exact switches
  | dropColumns columns => exact (Bool.and_eq_true_iff.mp switches).1
  | _ => cases switches

namespace SchemaDialect

variable {dialect : SchemaDialect} {blueprint : Blueprint} {context : TableContext}
  {command : Command} {own sent rest : List String}

theorem rebuild_eq_bracket (definitions kept : List String) :
    ∃ inner, Silent inner ∧
      dialect.rebuild blueprint definitions kept context = withoutForeignKeys context inner := by
  refine ⟨_, ?_, rfl⟩
  simp only [Silent, List.forall_mem_cons, String.append_assoc]
  refine ⟨?_, ?_, ?_, ?_, ?_, nofun⟩ <;> exact switch?_of_begins _ (by decide)

/-- The statements of a command, most of which switch nothing. -/
theorem bracket_of_command (sqlite : dialect.vendor = .sqlite)
    (written : dialect.command blueprint context command = .ok own) :
    ∃ inner, Silent inner ∧ own =
      if command.switches context then
        "PRAGMA foreign_keys = OFF" :: inner ++ ["PRAGMA foreign_keys = ON"]
      else inner := by
  by_cases foreseen : dialect.Foresees context command
  · have blind := (command_of_foresees foreseen).symm.trans written
    have unswitched : command.switches context = false := by
      cases command with
      | change => exact absurd sqlite foreseen
      | dropColumns columns => simp [Command.switches, foreseen sqlite]
      | renameColumn column name => exact foreseen sqlite
      | _ => rfl
    refine ⟨own, fun text member => switch?_of_uninformed ?_, by simp [unswitched]⟩
    exact uninformed_command sqlite blind text member
  · cases command with
    | change =>
        simp only [SchemaDialect.command, change, sqlite, rebuildChanged] at written
        split at written
        · cases written
        · cases written
          exact rebuild_eq_bracket _ _
    | dropColumns columns =>
        obtain ⟨-, told⟩ := Classical.not_imp.mp foreseen
        cases written
        have switched : (Command.dropColumns columns).switches context = context.foreignKeys := by
          simp [Command.switches, told]
        simp only [dropColumns, sqlite, told, if_false, switched]
        exact rebuild_eq_bracket _ _
    | renameColumn column name =>
        cases written
        simp only [renameColumn, sqlite]
        refine ⟨_, List.forall_mem_singleton.mpr ?_, rfl⟩
        exact switch?_of_uninformed (uninformed_alterTable _)
    | _ => exact absurd trivial foreseen

/-- All statements of a command leave the enforcement as it was told to be. -/
theorem enforcedAfter_command (sqlite : dialect.vendor = .sqlite)
    (written : dialect.command blueprint context command = .ok own) :
    enforcedAfter context.foreignKeys own = context.foreignKeys := by
  obtain ⟨inner, silent, rfl⟩ := bracket_of_command sqlite written
  split
  · rename_i switches
    rw [Command.foreignKeys_of_switches switches, enforcedAfter_append]
    rfl
  · exact enforcedAfter_of_silent silent

/-- A part of them leaves it switched off if the command switches. -/
theorem enforcedAfter_part (sqlite : dialect.vendor = .sqlite)
    (written : dialect.command blueprint context command = .ok (sent ++ rest))
    (begun : sent ≠ []) (left : rest ≠ []) :
    enforcedAfter context.foreignKeys sent =
      (context.foreignKeys && !command.switches context) := by
  obtain ⟨inner, silent, same⟩ := bracket_of_command sqlite written
  cases switches : command.switches context with
  | false =>
      rw [switches, if_neg Bool.false_ne_true] at same
      have part : Silent sent :=
        fun text member => silent text (same ▸ List.mem_append_left rest member)
      simpa using enforcedAfter_of_silent part
  | true =>
      rw [switches, if_pos rfl] at same
      obtain ⟨first, others, rfl⟩ := List.exists_cons_of_ne_nil begun
      -- What switches it on again is the last statement, which is among those that are left.
      obtain ⟨rest, last, rfl⟩ := (List.eq_nil_or_concat rest).resolve_left left
      rw [List.concat_eq_append, ← List.append_assoc] at same
      obtain ⟨whole, -⟩ := List.append_inj' same rfl
      obtain ⟨rfl, within⟩ := List.cons_eq_cons.mp whole
      have part : Silent others :=
        fun text member => silent text (within ▸ List.mem_append_left rest member)
      rw [Bool.not_true, Bool.and_false]
      exact enforcedAfter_of_silent part

/-! Blueprints -/

/-- The statements that were taken are those of some commands, and of the next one a part only,
which has switched the enforcement of foreign keys off. -/
def StopsWithin (dialect : SchemaDialect) (blueprint : Blueprint) (context : TableContext)
    (taken : List String) : Prop :=
  ∃ earlier command later before sent rest,
    blueprint.commands = earlier ++ command :: later ∧ command.switches context = true ∧
      earlier.mapM (dialect.command blueprint context) = .ok before ∧
      dialect.command blueprint context command = .ok (sent ++ rest) ∧ sent ≠ [] ∧ rest ≠ [] ∧
      taken = before.flatten ++ sent

theorem enforcedAfter_commands (sqlite : dialect.vendor = .sqlite) {commands : List Command}
    {lists : List (List String)}
    (written : commands.mapM (dialect.command blueprint context) = .ok lists) :
    enforcedAfter context.foreignKeys lists.flatten = context.foreignKeys := by
  induction commands generalizing lists with
  | nil =>
      cases written
      rfl
  | cons command commands ih =>
      obtain ⟨own, others, first, later, rfl⟩ := of_mapM_cons written
      rw [List.flatten_cons, enforcedAfter_append, enforcedAfter_command sqlite first, ih later]

/-- A part of the statements of some commands ends with those of a command, or within them. -/
theorem split_taken {commands : List Command} {lists : List (List String)} {taken : List String}
    (written : commands.mapM (dialect.command blueprint context) = .ok lists)
    (parts : lists.flatten = taken ++ rest) :
    (∃ earlier later before, commands = earlier ++ later ∧
        earlier.mapM (dialect.command blueprint context) = .ok before ∧ taken = before.flatten) ∨
      ∃ earlier command later before sent rest, commands = earlier ++ command :: later ∧
        earlier.mapM (dialect.command blueprint context) = .ok before ∧
        dialect.command blueprint context command = .ok (sent ++ rest) ∧ sent ≠ [] ∧ rest ≠ [] ∧
        taken = before.flatten ++ sent := by
  induction commands generalizing lists taken with
  | nil =>
      cases written
      obtain ⟨rfl, -⟩ := List.append_eq_nil_iff.mp parts.symm
      exact .inl ⟨[], [], [], rfl, rfl, rfl⟩
  | cons command commands ih =>
      obtain ⟨own, others, first, later, rfl⟩ := of_mapM_cons written
      have further {earlier : List Command} {before : List (List String)}
          (begun : earlier.mapM (dialect.command blueprint context) = .ok before) :
          (command :: earlier).mapM (dialect.command blueprint context) = .ok (own :: before) := by
        rw [List.mapM_cons, first, begun]
        rfl
      rw [List.flatten_cons, List.append_eq_append_iff] at parts
      rcases parts with ⟨more, rfl, parts⟩ | ⟨left, rfl, -⟩
      · rcases ih later parts with ⟨earlier, others, before, rfl, begun, rfl⟩ |
          ⟨earlier, next, others, before, sent, rest, rfl, begun, part⟩
        · exact .inl ⟨command :: earlier, others, own :: before, rfl, further begun, rfl⟩
        · obtain ⟨one, filled, left, rfl⟩ := part
          exact .inr ⟨command :: earlier, next, others, own :: before, sent, rest, rfl,
            further begun, one, filled, left, (List.append_assoc own _ _).symm⟩
      · by_cases none : taken = []
        · subst none
          exact .inl ⟨[], command :: commands, [], rfl, rfl, rfl⟩
        by_cases all : left = []
        · subst all
          rw [List.append_nil] at further
          exact .inl ⟨[command], commands, [taken], rfl, further rfl, by simp⟩
        exact .inr ⟨[], command, commands, [], taken, left, rfl, rfl, first, none, all, rfl⟩

theorem enforcedAfter_statements (sqlite : dialect.vendor = .sqlite) {texts : List String}
    (written : dialect.statements blueprint context = .ok texts) :
    enforcedAfter context.foreignKeys texts = context.foreignKeys := by
  obtain ⟨lists, all, flat⟩ := ok_of_bind written
  cases flat
  exact enforcedAfter_commands sqlite all

theorem not_stopsWithin_nil : ¬dialect.StopsWithin blueprint context [] := by
  rintro ⟨_, _, _, before, sent, _, -, -, -, -, filled, -, nothing⟩
  exact filled (List.append_eq_nil_iff.mp nothing.symm).2

/-- What was taken of the statements of a blueprint leaves the enforcement as it was told to be,
just if it does not stop within a command that switches. -/
theorem enforcedAfter_taken_iff (sqlite : dialect.vendor = .sqlite) {taken : List String}
    (written : dialect.statements blueprint context = .ok (taken ++ rest)) :
    enforcedAfter context.foreignKeys taken = context.foreignKeys ↔
      ¬dialect.StopsWithin blueprint context taken := by
  constructor
  · rintro restored ⟨earlier, command, later, before, sent, rest, -, switches, begun, one, filled,
      left, rfl⟩
    rw [enforcedAfter_append, enforcedAfter_commands sqlite begun,
      enforcedAfter_part sqlite one filled left, switches,
      Command.foreignKeys_of_switches switches] at restored
    cases restored
  · intro whole
    obtain ⟨lists, all, flat⟩ := ok_of_bind written
    rcases split_taken all (Except.ok.inj flat) with ⟨earlier, later, before, -, begun, rfl⟩ |
      ⟨earlier, command, later, before, sent, rest, order, begun, one, filled, left, rfl⟩
    · exact enforcedAfter_commands sqlite begun
    · have unswitched : command.switches context = false := by
        refine Bool.eq_false_iff.mpr fun switches => whole ?_
        exact ⟨earlier, command, later, before, sent, rest, order, switches, begun, one, filled,
          left, rfl⟩
      rw [enforcedAfter_append, enforcedAfter_commands sqlite begun,
        enforcedAfter_part sqlite one filled left, unswitched, Bool.not_false, Bool.and_true]

end SchemaDialect

end SqlToolkit
