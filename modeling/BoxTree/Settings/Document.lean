import BoxTree.Schema.Container
import BoxTree.Settings.Basic
import BoxTree.Text.Case

/-! Settings documents. Unknown keys are refused at the top and passed over below it. -/

namespace BoxTree.SettingsDocument

open Schema Checked

def compiler (value : Value) : Checked CompilerSettings :=
  let default : CompilerSettings := { }
  value |> record "CompilerSettings" fun fields =>
    CompilerSettings.mk
      <$> defaulted fields ["variable_prefix_length"] default.variablePrefixLength (wholeBetween 1 2)
      <*> defaulted fields ["queue_order"] default.queueOrder (option QueueOrder.all QueueOrder.name)
      <*> defaulted fields ["unnamed_edge_prefix"] default.unnamedEdgePrefix nonemptyText

def level : Value → Checked LogLevel
  | .text (.whole name) =>
    match LogLevel.all.find? fun level => level.name == Text.upper name with
    | some level => good level
    | none => fail (.noLiteral (LogLevel.all.map LogLevel.name))
  | _ => fail (.noLiteral (LogLevel.all.map LogLevel.name))

def logging (value : Value) : Checked LoggingSettings :=
  let default : LoggingSettings := { }
  value |> record "LoggingSettings" fun fields =>
    LoggingSettings.mk
      <$> defaulted fields ["level"] default.level level
      <*> defaulted fields ["json_output"] default.jsonOutput truth
      <*> defaulted fields ["quiet_loggers"] default.quietLoggers fun names =>
        List.filterMap Wording.whole? <$> tuple text names

def read (document : Fields) : Checked Settings :=
  Settings.mk
    <$> defaulted document ["compiler"] { } compiler
    <*> defaulted document ["logging"] { } logging
    <* noOthers document ["compiler", "logging"]

end BoxTree.SettingsDocument
