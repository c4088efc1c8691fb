import BoxTree.Graph.Order
import BoxTree.Tree.Basic

/-! Settings: how graphs are compiled and what is logged. -/

namespace BoxTree

structure CompilerSettings where
  /-- How many letters of an object type a variable's name begins with. -/
  variablePrefixLength : Int := 2
  queueOrder : QueueOrder := .parentCount
  /-- What the names of unnamed edges begin with. -/
  unnamedEdgePrefix : String := LinearTree.unnamedEdge
deriving DecidableEq

inductive LogLevel where
  | debug
  | info
  | warning
  | error
deriving DecidableEq

namespace LogLevel

def all : List LogLevel := [debug, info, warning, error]

def name : LogLevel → String
  | debug => "DEBUG"
  | info => "INFO"
  | warning => "WARNING"
  | error => "ERROR"

end LogLevel

structure LoggingSettings where
  level : LogLevel := .info
  jsonOutput : Bool := false
  quietLoggers : List String := ["dynaconf"]
deriving DecidableEq

structure Settings where
  compiler : CompilerSettings := { }
  logging : LoggingSettings := { }
deriving DecidableEq

end BoxTree
