import SqlToolkit.Connection.Script
import SqlToolkit.Description.Instruction
import SqlToolkit.Description.Value
/-!
Scripts and their records written as documents: a script as a table of its queues, an event as a
list of the name of the call and what it was called with.
-/

namespace SqlToolkit

open Document

def Marker.ofDocument? : Document → Option Marker
  | .text "qmark" => some .question
  | .text "format" => some .percent
  | _ => none

/-- The number of rows that were touched, and the last key or null. -/
def Receipt.ofDocument? : Document → Option Receipt
  | .list [affected, key] => return ⟨← affected.count?, ← key.nullable? integer?⟩
  | _ => none

def Script.ofDocument? (document : Document) : Option Script := do
  let refusals name := (document.at? name).items? (nullable? text?)
  return {
    rows := ← (document.at? "rows").items? (items? Row.ofDocument?)
    receipts := ← (document.at? "exec").items? Receipt.ofDocument?
    marker := Marker.ofDocument? (document.at? "marker")
    statements := ← refusals "stmt"
    begins := ← refusals "begin"
    commits := ← refusals "commit"
    rollbacks := ← refusals "rollback"
    closes := ← refusals "close"
    connects := ← refusals "connect" }

namespace Call

def endpoint (config : ConnectionConfig) : Role → ConnectionConfig
  | .write => config.forWriting
  | .read => config.forReading?.getD config.forWriting

def controlName : Control → String
  | .begin => "begin"
  | .commit => "commit"
  | .rollback => "rollback"
  | .close => "close"

def words : Call → List Document
  | .answer session request =>
      let sent (name : String) (statement : Statement) : List Document :=
        [name, session.label, statement.sql, ofList Value.toDocument statement.bindings]
      match request with
      | .fetch _ statement => sent "fetch" statement
      | .execute statement => sent "execute" statement
      | .unprepared sql => ["unprepared", session.label, sql]
  | .control session kind => [controlName kind, session.label]
  | .connect config role =>
      let config := endpoint config role
      ["connect", role.name, config.driver, config.database, ofText? config.host,
        ofOption (fun port : Nat => port) config.port, ofText? config.user, ofText? config.password]

end Call

/-- The words of a call, and the refusal if there was one. -/
def Event.toDocument (event : Event) : Document :=
  .list (event.call.words ++
    (event.refusal.map fun refusal => table [("fail", .text refusal)]).toList)

end SqlToolkit
