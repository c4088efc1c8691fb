import BoxTree.Log.Event
import BoxTree.Text.Insert

/-! Calls of loggers: a text with marks, values for them, and fields. -/

namespace BoxTree.Log

structure Call where
  logger : String
  severity : Severity
  text : String
  values : List Value := []
  bound : Fields := []
  fields : Fields := []
  /-- Whether the logger takes fields. One that does not loses what it cannot write. -/
  isStructured : Bool := true

inductive CallFault where
  | insert (fault : Text.InsertFault)
  | secondText (severity : Severity)

def CallFault.message : CallFault → String
  | insert fault => fault.message
  | secondText severity => s!"BoundLogger.{Text.lower severity.name}() got multiple values for argument 'event'"

namespace Call

/-- Fields that say how a call is written, and are not written if they say nothing. -/
def directions : List String := ["exc_info", "stack_info"]

def written (call : Call) : Fields :=
  if call.isStructured then
    (call.fields.foldl (fun fields (key, value) => Entries.put key value fields) call.bound).filter fun (key, value) =>
      key.plain != "positional_args" && !(directions.contains key.plain.displayed && value.isVoid)
  else []

def event (call : Call) (message : String) : Event := ⟨call.logger, call.severity, message, call.written⟩

end Call

/-- The line of a call in a context, if it passes. Values are inserted whether it does or not. -/
def Setup.call (log : Setup) (context : Fields) (call : Call) : Except CallFault (Option Line) :=
  if call.isStructured && (call.fields.getText? "event").isSome then .error (.secondText call.severity)
  else
    match Text.insertValues call.text call.values with
    | .ok message => .ok (log.line? context (call.event message))
    | .error fault => if call.isStructured then .error (.insert fault) else .ok none

end BoxTree.Log
