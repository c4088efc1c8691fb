import BoxTree.Log.Level
import BoxTree.Value.Order
import BoxTree.Value.Show

/-! Log events and the lines that they give: one JSON object, or a line for people to read. -/

namespace BoxTree.Log

structure Event where
  logger : String
  severity : Severity
  message : String
  fields : Fields

inductive Line where
  | json (members : Fields)
  | console (severity message logger : String) (fields : List (String × String))

namespace Event

def loggerName (event : Event) : String := if event.logger.isEmpty then "root" else event.logger

def severityName (event : Event) : String := Text.lower event.severity.name

/-- The fields of an event in a context, whose fields it may override. -/
def allFields (context : Fields) (event : Event) : Fields :=
  event.fields.foldl (fun fields (key, value) => Entries.put key value fields) context

/-- The whole event with its own name for each of its parts, but for the time. -/
def members (context : Fields) (event : Event) : Fields :=
  [("event", event.message), ("logger", event.loggerName), ("level", event.severityName)].foldl
    (fun fields (key, content) => Entries.put (.text key) (.text content) fields)
    ((event.allFields context).erase (.text "timestamp"))

def needsQuotes (content : Wording) : Bool :=
  content.standIns.any fun c => [' ', '\t', '=', '"', '\'', '\r', '\n'].contains c

def fieldText : Value → String
  | .text content => if needsQuotes content then content.quoted else content.displayed
  | value => value.shown

/-- The parts that a line for people shows in places of their own. -/
def placed : List String := ["event", "level", "logger", "timestamp"]

def console (context : Fields) (event : Event) : Line :=
  let others := (event.allFields context).filterMap fun (key, value) =>
    let name := key.plain.displayed
    if placed.contains name then none else some (name, fieldText value)
  let sorted := others.mergeSort fun left right => !Value.textLess right.1 left.1
  .console event.severityName event.message event.loggerName sorted

end Event

def padRight (width : Nat) (content : String) : String :=
  content ++ String.ofList (List.replicate (width - content.length) ' ')

namespace Line

def text (writeJson : Value → String) (time : String) : Line → String
  | json members => writeJson (.map (members ++ [(.text "timestamp", .text time)]))
  | console severity message logger fields =>
    let shown := fields.map fun (name, value) => " " ++ name ++ "=" ++ value
    time ++ " [" ++ padRight 9 severity ++ "] " ++ padRight 30 message ++ " [" ++ logger ++ "]" ++
      String.join shown

end Line

structure Setup where
  loggers : Loggers
  jsonOutput : Bool

namespace Setup

def initial : Setup := ⟨.initial, false⟩

def configure (config : Config) (log : Setup) : Setup := ⟨log.loggers.configure config, config.jsonOutput⟩

def passes (log : Setup) (event : Event) : Bool :=
  event.severity.atLeast (log.loggers.effective event.logger)

def line? (log : Setup) (context : Fields) (event : Event) : Option Line :=
  if log.passes event then
    some (if log.jsonOutput then .json (event.members context) else event.console context)
  else none

def graphContext (graph : String) : Fields := [(.text "graph", .text graph)]

end Setup
end BoxTree.Log
