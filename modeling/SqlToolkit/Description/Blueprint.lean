import SqlToolkit.Description.Instruction
import SqlToolkit.Description.Value
import SqlToolkit.Schema.Blueprint
import SqlToolkit.Schema.Inspection
/-!
Blueprints written as instructions, one for each column and each command. The last argument of a
column is the list of its modifiers. What the database tells of a table is a document too.
-/

namespace SqlToolkit

open Document

def ColumnType.names : List (String × ColumnType) :=
  [("char", char), ("string", string), ("text", text), ("medium_text", mediumText),
    ("long_text", longText), ("integer", integer), ("big_integer", bigInteger),
    ("medium_integer", mediumInteger), ("small_integer", smallInteger),
    ("tiny_integer", tinyInteger), ("float", float), ("double", double), ("decimal", decimal),
    ("boolean", boolean), ("enum", enumeration), ("json", json), ("date", date),
    ("datetime", dateTime), ("time", time), ("timestamp", timestamp), ("binary", binary)]

def ColumnType.ofName? (name : String) : Option ColumnType :=
  names.lookup name

def DefaultValue.ofDocument? : Document → Option DefaultValue
  | .null => some null
  | .boolean value => some (boolean value)
  | .integer value => some (integer value)
  | .text value => some (text value)
  | .table [("f", digits)] => float <$> digits.float?
  | .table [("raw", .text sql)] => some (verbatim sql)
  | _ => none

def ForeignAction.ofName? : String → Option ForeignAction
  | "no_action" => some noAction
  | "restrict" => some restrict
  | "cascade" => some cascade
  | "set_null" => some setNull
  | "set_default" => some setDefault
  | _ => none

namespace Column

def modify? (column : Column) (modifier : Document) : Option Column := do
  let instruction ← Instruction.ofDocument? modifier
  let value := instruction.argument 0
  match instruction.name with
  | "nullable" => some { column with nullable := true }
  | "unsigned" => some { column with unsigned := true }
  | "auto_increment" => some { column with autoIncrement := true }
  | "use_current" => some { column with useCurrent := true }
  | "change" => some { column with changes := true }
  | "primary" => some { column with primary := true }
  | "unique" => some { column with unique := true }
  | "index" => some { column with index := true }
  | "default" => return { column with default := ← DefaultValue.ofDocument? value }
  | "after" => return { column with after := ← value.text? }
  | "comment" => return { column with comment := ← value.text? }
  | "charset" => return { column with charset := ← value.text? }
  | "collation" => return { column with collation := ← value.text? }
  | "length" => return { column with length := ← value.count? }
  | _ => none

def modified? (column : Column) (modifiers : Document) : Option Column := do
  (← modifiers.items? some).foldlM modify? column

def ofParts? (type name modifiers : Document) : Option Column := do
  modified? { type := ← ColumnType.ofName? (← type.text?), name := ← name.text? } modifiers

/-- A column by the name of its type, or of a type with a usual length, precision or modifier. -/
def ofInstruction? (instruction : Instruction) : Option Column := do
  let a := instruction.argument 0
  let b := instruction.argument 1
  let c := instruction.argument 2
  let precise (type : ColumnType) : Option Column := do
    modified? (ofPrecision type (← a.text?) (← b.count?) (← c.count?)) (instruction.argument 3)
  match instruction.name with
  | "add_column" => ofParts? a b c
  | "increments" => modified? (counter .integer (← a.text?)) b
  | "big_increments" => modified? (counter .bigInteger (← a.text?)) b
  | "char" => modified? (ofLength .char (← a.text?) (← b.count?)) c
  | "string" => modified? (string (← a.text?)) b
  | "string_with_length" => modified? (ofLength .string (← a.text?) (← b.count?)) c
  | "unsigned_integer" =>
      modified? { type := .integer, name := ← a.text?, unsigned := true } b
  | "unsigned_big_integer" =>
      modified? { type := .bigInteger, name := ← a.text?, unsigned := true } b
  | "float" => modified? (float (← a.text?)) b
  | "float_with" => precise .float
  | "double_with" => precise .double
  | "decimal" => modified? (decimal (← a.text?)) b
  | "decimal_with" => precise .decimal
  | "enumeration" =>
      modified?
        { type := .enumeration, name := ← a.text?, allowed := ← b.items? text? } c
  | "soft_deletes" => modified? deletion a
  | name => modified? { type := ← ColumnType.ofName? name, name := ← a.text? } b

end Column

/-- A foreign key with what it refers to, or with an action. -/
def ForeignKey.refine? (key : ForeignKey) (document : Document) : Option ForeignKey := do
  let instruction ← Instruction.ofDocument? document
  let value := instruction.argument 0
  match instruction.name with
  | "references" => return { key with references := ← value.items? text? }
  | "on" => return { key with table := ← value.text? }
  | "on_delete" => return { key with onDelete := ← ForeignAction.ofName? (← value.text?) }
  | "on_update" => return { key with onUpdate := ← ForeignAction.ofName? (← value.text?) }
  | _ => none

namespace Blueprint

/-- Carries out an instruction on the table. -/
def command? (blueprint : Blueprint) (instruction : Instruction) : Option Blueprint := do
  let a := instruction.argument 0
  let b := instruction.argument 1
  let columns := a.items? text?
  let name := b.nullable? text?
  match instruction.name with
  | "create" => some (blueprint.addCommand .create)
  | "drop" => some (blueprint.addCommand .drop)
  | "drop_if_exists" => some (blueprint.addCommand .dropIfExists)
  | "rename" => return blueprint.addCommand (.rename (← a.text?))
  | "drop_column" => return blueprint.addCommand (.dropColumns (← columns))
  | "rename_column" => return blueprint.addCommand (.renameColumn (← a.text?) (← b.text?))
  | "drop_timestamps" => some blueprint.dropTimestamps
  | "drop_soft_deletes" => some blueprint.dropDeletion
  | "primary" => blueprint.primary <$> columns <*> name
  | "unique" => blueprint.unique <$> columns <*> name
  | "index" => blueprint.index <$> columns <*> name
  | "foreign" =>
      let key := blueprint.foreignKey (← columns) (← name)
      let key ← (← (instruction.argument 2).items? some).foldlM ForeignKey.refine? key
      return blueprint.addCommand (.foreign key)
  | "drop_primary" => blueprint.dropPrimary <$> a.nullable? text?
  | "drop_unique" => return blueprint.addCommand (.dropUnique (← a.text?))
  | "drop_index" => return blueprint.addCommand (.dropIndex (← a.text?))
  | "drop_foreign" => return blueprint.addCommand (.dropForeign (← a.text?))
  | "timestamps" => some (blueprint.timestamps false false)
  | "timestamps_use_current" => some (blueprint.timestamps false true)
  | "nullable_timestamps" => some (blueprint.timestamps true false)
  | "morphs" => blueprint.morphs <$> a.text?
  | "engine" => return { blueprint with engine := ← a.text? }
  | "charset" => return { blueprint with charset := ← a.text? }
  | "collation" => return { blueprint with collation := ← a.text? }
  | "prefix" => return { blueprint with tablePrefix := ← a.text? }
  | "prepare" => some blueprint.prepared
  | _ => none

/-- Carries out an instruction on the table or adds a column to it. -/
def instruct? (blueprint : Blueprint) (document : Document) : Option Blueprint := do
  let instruction ← Instruction.ofDocument? document
  (blueprint.command? instruction).or do
    return blueprint.addColumns [← Column.ofInstruction? instruction]

end Blueprint

def Command.toDocument (command : Command) : Document :=
  let arguments : List Document := match command with
    | .rename name => [name]
    | .dropColumns columns => [ofTexts columns]
    | .renameColumn column name => [column, name]
    | .primary key | .unique key | .index key => [key.name, ofTexts key.columns]
    | .foreign key => [key.name, ofTexts key.columns, ofTexts key.references, key.table,
        ofOption (fun action => action.text) key.onDelete,
        ofOption (fun action => action.text) key.onUpdate]
    | .dropPrimary name | .dropUnique name | .dropIndex name | .dropForeign name => [name]
    | _ => []
  .list (command.name :: arguments)

namespace ColumnInfo

def toDocument (column : ColumnInfo) : Document :=
  .table [("default", ofText? column.default), ("name", column.name), ("not_null", column.notNull),
    ("pk", column.primaryKey), ("type", column.type)]

def ofDocument? (document : Document) : Option ColumnInfo := do
  return {
    name := ← (document.at? "name").text?
    type := ← (document.at? "type").text?
    notNull := ← (document.at? "not_null").flag?
    default := (document.at? "default").text?
    primaryKey := ← (document.at? "pk").flag? }

end ColumnInfo

def TableContext.ofDocument? (document : Document) : Option TableContext := do
  return {
    foreignKeys := ← (document.at? "foreign_keys").flag?
    columns := ← (document.at? "columns").items? ColumnInfo.ofDocument? }

end SqlToolkit
