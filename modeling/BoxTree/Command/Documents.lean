import BoxTree.Command.Outcome
import BoxTree.Command.Request
import BoxTree.Tree.Validity

/-! The documents that commands work on. What is wrong with one of them is told in a panel where that
helps the user. -/

namespace BoxTree.Command

/-- How a failure to read a document is told: in a panel, or not at all. -/
abbrev Told := Except Failure Panel

def missingFile (what : String) (path : Path) : Panel :=
  { title := "File Not Found", message := s!"{what} file does not exist: {path.text}" }

def yamlSyntax (path : Path) : Panel :=
  { title := "YAML Syntax Error", message := s!"Failed to parse {path.name}" }

namespace GraphFile

def parseFailure (path : Path) (reason : String) : Panel :=
  { title := "JSON Syntax Error", message := s!"Failed to parse {path.name}", details := some [reason] }

def told (path : Path) : GraphLoadError → Told
  | .document (.missing _) => .ok (missingFile "Graph" path)
  | .document (.json error) => .ok (parseFailure path error.message)
  | .document (.yaml .malformed) =>
    .ok { yamlSyntax path with
      hint := some "Check for unclosed brackets, incorrect indentation, or invalid characters." }
  | .document (.yaml (.badScalar reason)) => .ok (parseFailure path reason)
  | .document error => .error (.document error)
  | .schema issues =>
    .ok { title := "Invalid Graph Document", message := s!"{path.name} does not match the graph schema",
          details := some (issues.map (·.line)) }

end GraphFile

namespace TreeFile

def malformed (path : Path) (reason : String) : Panel :=
  { title := "Malformed Tree", message := s!"{path.name}: {reason}" }

def told (path : Path) : TreeLoadError → Told
  | .document (.missing _) => .ok (missingFile "Tree" path)
  | .document (.json error) => .ok (malformed path error.message)
  | .document (.yaml .malformed) => .ok (yamlSyntax path)
  | .document (.yaml (.badScalar reason)) => .ok (malformed path reason)
  | .document (.yaml (.unknownTruth word)) => .ok (malformed path word.quoted)
  | .document (.yaml (.changingKey kind)) => .ok (malformed path (Yaml.ReadError.changingKey kind).message)
  | .document error => .error (.document error)
  | .noTree file => .ok (malformed path (TreeLoadError.noTreeMessage file))
  | .decoding error =>
    match error.category with
    | .badValue | .badKind => .ok (malformed path error.message)
    | .missingKey => .ok (malformed path (Text.quoted error.message))
    | .missingMember | .overflow | .endless => .error (.decoding error)

def invalid (fault : TreeFault) : Panel := { title := "Invalid Tree", message := fault.message.displayed }

end TreeFile

namespace SettingsFile

/-- How a settings file that cannot be used is told of. A missing one is shown as it was asked for, any
other one by its place. -/
def told (path place : Path) : SettingsLoadError → Told
  | .document (.missing _) =>
    .ok { missingFile "Settings" path with hint := some "Check the path and ensure the file exists." }
  | .schema issues =>
    .ok { title := "Configuration Validation Failed", message := s!"Invalid settings in {place.name}",
          details := some (issues.map (·.line)), hint := some "Check field names, types, and allowed values." }
  | error => .error (.settings error)

end SettingsFile

namespace Run

def orTell {ε α : Type} (told : ε → Told) : Except ε α → Run α
  | .ok value => pure value
  | .error error =>
    match told error with
    | .ok panel => refuse panel
    | .error failure => fail failure

/-- The logging that settings ask for; options of the command line count before them. -/
def logging (general : General) (settings : LoggingSettings) : Log.Config where
  level := if general.verbose then .debug else .ofLevel settings.level
  jsonOutput := general.jsonLogs || settings.jsonOutput
  quiet := settings.quietLoggers

def expanded (surroundings : Surroundings) (path : Path) : Run Path :=
  match path.expanded? surroundings.home with
  | some place => pure place
  | none => fail .noHome

/-- The settings of a file, or the default ones. The settings of a file apply to the log at once. -/
def settings (surroundings : Surroundings) (general : General) : Option Path → Run Settings
  | none => pure { }
  | some path => do
    let place ← expanded surroundings path
    let settings ← orTell (SettingsFile.told path place)
      (surroundings.disk.settings surroundings.environment place)
    configure (logging general settings.logging)
    return settings

def graph (surroundings : Surroundings) (path : Path) : Run DocumentGraph := do
  orTell (GraphFile.told path) (surroundings.disk.graph (← expanded surroundings path))

def tree (surroundings : Surroundings) (path : Path) : Run DocumentTree := do
  let tree ← orTell (TreeFile.told path) (surroundings.disk.tree (← expanded surroundings path))
  match tree.fault? with
  | some fault => refuse (TreeFile.invalid fault)
  | none => return tree

def write (surroundings : Surroundings) (path : Path) (text : String) : Run Unit := do
  let place ← expanded surroundings path
  ofExcept .place (surroundings.disk.checkWritable place)
  put (.file place text)

def deliver (surroundings : Surroundings) (text : String) : Option Path → Run Unit
  | none => put (.line text)
  | some path => do
    write surroundings path (text ++ "\n")
    put (.notice s!"Wrote {path.text}")

end Run
end BoxTree.Command
