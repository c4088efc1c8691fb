import BoxTree.Command.Display
import BoxTree.Command.Run
import BoxTree.Log.Clock
import BoxTree.Markup.Json.Writer
import Std.Time.DateTime.Timestamp

/-! The program: it looks at its surroundings, runs a command, and puts out what came of it. -/

namespace BoxTree.Main

open Command

/-- The paths that a word of the command line may stand for or hold. -/
def pathsIn (word : String) : List Path :=
  let (_, value) := Words.spellingAndValue word
  ([word, (word.drop 2).toString] ++ value.toList).map .ofText

def candidates (home : String) (words : List String) : List Path :=
  let asked := words.flatMap pathsIn
  let paths := asked ++ asked.filterMap (Path.expanded? home)
  paths ++ paths.map Path.localSettings

def promised (text : String) : List Path :=
  let words := text.split (fun c => Text.isSpacing c || c == '"' || c == '\'') |>.toList.map (·.toString)
  (words.zip words.tail).filterMap fun (word, next) => if word == "@read_file" then some (.ofText next) else none

def variableOf (entry : String) : Option (String × String) :=
  match entry.toList.span (· != '=') with
  | (name, _ :: value) => some (String.ofList name, String.ofList value)
  | (_, []) => none

def environment : IO Environment := do
  let bytes ← IO.FS.readBinFile "/proc/self/environ"
  return ((String.fromUTF8? bytes).getD "").splitOn "\x00" |>.filterMap variableOf

def readFile? (path : Path) : IO (Option String) := do
  try return some (← IO.FS.readFile path.text)
  catch _ => return none

/-- Whether a path leads to a directory: only then does it lead on to a place inside. -/
def isDirectory (path : Path) : IO Bool := do
  try
    let _ ← IO.FS.realPath (path.text ++ "/.")
    return true
  catch _ => return false

def parent (path : Path) : Path := ⟨path.root, path.parts.dropLast⟩

def look (path : Path) : IO Found := do
  if path.parts.any fun part => 255 < part.utf8ByteSize then return .overlong
  if ← isDirectory path then return .directory
  match ← readFile? path with
  | some content => return .file content
  | none =>
    if ← isDirectory (parent path) then return .free
    return if (← readFile? (parent path)).isSome then .blocked else .lost

/-- The paths that one with wildcards in its last part may stand for. -/
def beside (path : Path) : IO (List Path) := do
  if !path.isPattern then return []
  try
    let entries ← (← IO.FS.realPath (parent path).text).readDir
    return (entries.map fun entry => path.withName entry.fileName).toList
  catch _ => return []

def surroundings (words : List String) : IO Surroundings := do
  let environment ← environment
  let home := (environment.lookup "HOME").getD "/root"
  let asked := candidates home words
  let known := (← asked.mapM beside).flatten
  let paths := asked ++ known ++ known.map Path.localSettings
  let found ← paths.mapM fun path => do return (path, ← look path)
  let contents := found.filterMap fun (_, found) => match found with | .file content => some content | _ => none
  let others ← ((environment.map (·.2) ++ contents).flatMap promised).mapM fun path => do return (path, ← look path)
  let all := found ++ others
  return ⟨⟨fun path => (all.lookup path).getD .lost, paths⟩, environment, home⟩

def timeText : IO String := do
  let now ← Std.Time.Timestamp.now
  return Log.timeText (now.toNanosecondsSinceUnixEpoch.val / 1000).toNat

def perform : Output → IO Unit
  | .line text => IO.println text
  | .table table => table.lines.forM IO.println
  | .notice text => IO.eprintln text
  | .panel panel => panel.lines.forM IO.eprintln
  | .log line => do IO.eprintln (line.text Json.write (← timeText))
  | .file path text => IO.FS.writeFile path.text text

end BoxTree.Main

def main (words : List String) : IO UInt32 := do
  let outcome := BoxTree.Command.run (← BoxTree.Main.surroundings words) words
  outcome.outputs.forM BoxTree.Main.perform
  match outcome.ending with
  | .failed failure => IO.eprintln failure.message
  | .misused => IO.eprintln (BoxTree.Command.Run.usageLine "COMMAND")
  | .success | .refused => pure ()
  return UInt32.ofNat outcome.ending.exitCode
