import BoxTree.Settings.Basic
import BoxTree.Text.Case

/-! How grave a log event is, and which loggers let it pass. Loggers form a tree by the dots in their
names: one without a level of its own has that of the nearest one above it. -/

namespace BoxTree.Log

inductive Severity where
  | none
  | debug
  | info
  | warning
  | error
  | critical
deriving DecidableEq

namespace Severity

def rank : Severity → Nat
  | none => 0
  | debug => 10
  | info => 20
  | warning => 30
  | error => 40
  | critical => 50

def atLeast (severity least : Severity) : Bool := decide (least.rank ≤ severity.rank)

def max (left right : Severity) : Severity := if left.atLeast right then left else right

def name : Severity → String
  | none => "NOTSET"
  | debug => "DEBUG"
  | info => "INFO"
  | warning => "WARNING"
  | error => "ERROR"
  | critical => "CRITICAL"

/-- The names by which severities are asked for; some have two. -/
def names : List (String × Severity) :=
  [none, debug, info, warning, error, critical].map (fun severity => (severity.name, severity)) ++
    [("WARN", warning), ("FATAL", critical)]

def ofLevel : LogLevel → Severity
  | .debug => debug
  | .info => info
  | .warning => warning
  | .error => error

/-- A severity by its name in upper or lower case, or the name that is none. -/
def ofName (name : String) : Except String Severity :=
  let upper := Text.upper name
  match names.lookup upper with
  | some severity => .ok severity
  | .none => .error upper

def unknownMessage (name : String) : String := s!"module 'logging' has no attribute '{name}'"

end Severity

structure Config where
  level : Severity := .info
  jsonOutput : Bool := false
  quiet : List String := LoggingSettings.quietLoggers { }

/-- The levels of loggers: of the root, and of those that have one of their own. -/
structure Loggers where
  root : Severity
  own : List (String × Severity)
deriving DecidableEq

namespace Loggers

def initial : Loggers := ⟨.warning, []⟩

def isRoot (name : String) : Bool := name.isEmpty || name == "root"

def set (loggers : Loggers) (name : String) (level : Severity) : Loggers :=
  if isRoot name then { loggers with root := level }
  else { loggers with own := (name, level) :: loggers.own.filter (·.1 ≠ name) }

/-- A logger's name and those above it, which end before its dots, the nearest first. -/
def lineage (name : String) : List String :=
  let letters := name.toList
  let dots := (List.range letters.length).filter fun place => 0 < place && letters[place]? == some '.'
  name :: dots.reverse.map fun place => String.ofList (letters.take place)

/-- The level that counts for a logger. A logger whose own level is below every event asks further up. -/
def effective (loggers : Loggers) (name : String) : Severity :=
  if isRoot name then loggers.root
  else
    let levels := (lineage name).filterMap fun ancestor => loggers.own.lookup ancestor
    (levels.find? (· ≠ .none)).getD loggers.root

def configure (config : Config) (loggers : Loggers) : Loggers :=
  config.quiet.foldl (fun loggers name => loggers.set name (config.level.max .warning))
    (loggers.set "" config.level)

end Loggers
end BoxTree.Log
