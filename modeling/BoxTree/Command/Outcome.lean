import BoxTree.Canonical.Text
import BoxTree.Command.Request
import BoxTree.Command.Tag
import BoxTree.Compile.Basic
import BoxTree.Files.VariableFile
import BoxTree.Log.Event
import BoxTree.Settings.Load

/-! What a command puts out, and how it ends. -/

namespace BoxTree.Command

structure Panel where
  title : String
  message : String
  hint : Option String := none
  details : Option (List String) := none

/-- The nodes of a tree, each with its position, its kind and its children. -/
structure Table where
  title : String
  rows : List (String × String × String)

inductive Output where
  | line (text : String)
  | table (table : Table)
  | notice (text : String)
  | panel (panel : Panel)
  | log (line : Log.Line)
  | file (path : Path) (text : String)

inductive Failure where
  | canonical (error : CanonicalError)
  | document (error : DocumentError)
  | decoding (error : TreeDecodeError)
  | settings (error : SettingsLoadError)
  | place (error : PlaceError)
  | lookup (error : LookupError Wording)
  | setting (fault : VariableFile.Fault)
  | tag (fault : TagFault)
  | noHome

def Failure.message : Failure → String
  | canonical error => error.message
  | document error | settings (.document error) => error.message
  | decoding error => error.message
  | settings (.setting error) => error.message
  | settings (.schema issues) => "\n".intercalate (issues.map (·.line))
  | place error => error.message
  | lookup error => error.message.displayed
  | setting fault => fault.message
  | tag fault => fault.message
  | noHome => "Could not determine home directory."

inductive Ending where
  | success
  | refused
  | misused
  | failed (failure : Failure)

def Ending.exitCode : Ending → Nat
  | success => 0
  | refused | failed _ => 1
  | misused => 2

def Ending.ofMisuse : Misuse → Ending
  | .senseless => misused
  | .unnamable => failed (.place .unnamable)

structure Outcome where
  ending : Ending
  outputs : List Output

def Outcome.filesAfter (outcome : Outcome) (files : Files) : Files :=
  outcome.outputs.foldl
    (fun files output =>
      match output with
      | .file path text => files.write path text
      | _ => files)
    files

def Outcome.written (outcome : Outcome) (files : Files) : Files :=
  (outcome.filesAfter files).filter fun file => !files.contains file

/-- What a command sees around it. Its standard streams take every letter: an encoding that lacks some is left out. -/
structure Surroundings where
  disk : Disk
  environment : Environment
  home : String

structure Trace where
  log : Log.Setup
  outputs : List Output

/-- A command under way: it may end early. -/
abbrev Run := ExceptT Ending (StateM Trace)

namespace Run

def putAll (outputs : List Output) : Run Unit :=
  modify fun trace => { trace with outputs := trace.outputs ++ outputs }

def put (output : Output) : Run Unit := putAll [output]

def configure (config : Log.Config) : Run Unit :=
  modify fun trace => { trace with log := trace.log.configure config }

def refuse {α : Type} (panel : Panel) : Run α := do
  put (.panel panel)
  throw .refused

def fail {α : Type} (failure : Failure) : Run α := throw (.failed failure)

def ofExcept {ε α : Type} (explain : ε → Failure) : Except ε α → Run α
  | .ok value => pure value
  | .error error => fail (explain error)

def outcome (run : Run Unit) : Outcome :=
  match run.run.run ⟨.initial, []⟩ with
  | (.ok (), trace) => ⟨.success, trace.outputs⟩
  | (.error ending, trace) => ⟨ending, trace.outputs⟩

end Run
end BoxTree.Command
