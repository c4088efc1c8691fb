import BoxTree.Command.Words
import BoxTree.Files.Path

/-! What a command line asks for. -/

namespace BoxTree.Command

structure General where
  verbose : Bool := false
  jsonLogs : Bool := false
  skipsVariables : Bool := false
  variableFile : Option Path := none

inductive Task where
  | compile (graph : Path) (settings output : Option Path) (allowPartial : Bool)
  | validate (graph : Path) (settings : Option Path)
  | classify (source target : Bool)
  | inspect (tree : Path) (settings : Option Path) (asJson : Bool)
  | combine (left right : Path) (leftName rightName : String) (output : Option Path)
  | usage

inductive Misuse where
  | senseless
  | unnamable
deriving DecidableEq

def Misuse.checkPath (word : String) : Except Misuse Unit :=
  if word.toList.contains '\x00' then .error .unnamable else .ok ()

inductive Request where
  | version
  | usage
  | run (general : General) (command : String) (words : List String)

def versionSwitch : Switch := ⟨["--version", "-V"], false⟩

def helpSwitch : Switch := ⟨["--help"], false⟩

def settingsSwitch : Switch := ⟨["--settings", "-s"], true⟩

def outputSwitch : Switch := ⟨["--output", "-o"], true⟩

namespace General

def switches : List Switch :=
  [versionSwitch, ⟨["--no-dotenv"], false⟩, ⟨["--env-file"], true⟩, ⟨["--verbose", "-v"], false⟩,
    ⟨["--json-logs"], false⟩, helpSwitch]

def ofWords (words : Words) : General where
  verbose := words.has "--verbose"
  jsonLogs := words.has "--json-logs"
  skipsVariables := words.has "--no-dotenv"
  variableFile := (words.value? "--env-file").map .ofText

end General

namespace Task

def commands : List String := ["compile", "validate", "classify", "inspect", "combine"]

def switches (command : String) : List Switch :=
  let own : List Switch :=
    match command with
    | "compile" => [settingsSwitch, outputSwitch, ⟨["--allow-partial"], false⟩]
    | "validate" => [settingsSwitch]
    | "classify" =>
      [⟨["--source-multiple"], false⟩, ⟨["--source-single"], false⟩, ⟨["--target-multiple"], false⟩,
        ⟨["--target-single"], false⟩]
    | "inspect" => [settingsSwitch, ⟨["--format", "-f"], true⟩]
    | _ => [⟨["--left-name"], true⟩, ⟨["--right-name"], true⟩, outputSwitch]
  own ++ [helpSwitch]

def paths (command : String) : Nat :=
  match command with
  | "classify" => 0
  | "combine" => 2
  | _ => 1

/-- Whether a tree is shown as JSON rather than as a table. -/
def asJson? (format : String) : Option Bool :=
  if format == "json" then some true else if format == "console" then some false else none

def checkOption (words : Words) (name : String) : Except Misuse Unit :=
  match words.value? name with
  | none => .ok ()
  | some value =>
    if name == "--format" then if (asJson? value).isSome then .ok () else .error .senseless
    else if [settingsSwitch, outputSwitch].any (·.name == name) then Misuse.checkPath value
    else .ok ()

/-- Check the options in the order in which they were given first, then the other words. -/
def check (command : String) (words : Words) : Except Misuse Unit := do
  (words.given.map (·.1)).eraseDups.forM (checkOption words)
  (words.plain.take (paths command)).forM Misuse.checkPath
  if words.plain.length != paths command then throw .senseless

def ofWords? (command : String) (words : Words) : Option Task :=
  let path (name : String) : Option Path := (words.value? name).map .ofText
  let settings := path "--settings"
  let output := path "--output"
  match command, words.plain with
  | "compile", [graph] => some (compile (.ofText graph) settings output (words.has "--allow-partial"))
  | "validate", [graph] => some (validate (.ofText graph) settings)
  | "classify", [] =>
    some (classify (words.lastIs "--source-multiple" "--source-single")
      (words.lastIs "--target-multiple" "--target-single"))
  | "inspect", [tree] =>
    (asJson? ((words.value? "--format").getD "console")).map fun asJson => inspect (.ofText tree) settings asJson
  | "combine", [left, right] =>
    some (combine (.ofText left) (.ofText right) ((words.value? "--left-name").getD "A")
      ((words.value? "--right-name").getD "B") output)
  | _, _ => none

/-- Read the words after a command. Asking for help counts before everything else. -/
def read (command : String) (words : List String) : Except Misuse Task := do
  let words ← (Words.read? (switches command) true words).elim (.error .senseless) .ok
  if words.has "--help" then return usage
  check command words
  (ofWords? command words).elim (.error .senseless) .ok

end Task

namespace Request

/-- Read a command line. Asking for the version or for help counts before everything else. -/
def read (words : List String) : Except Misuse Request := do
  let words ← if words.isEmpty then throw .senseless
    else (Words.read? General.switches false words).elim (.error .senseless) .ok
  let isFirst (given : String × Option String) : Bool := [versionSwitch.name, helpSwitch.name].contains given.1
  match words.given.find? isFirst with
  | some given => return if given.1 == versionSwitch.name then version else usage
  | none =>
    (words.value? "--env-file").forM Misuse.checkPath
    match words.plain with
    | [] => throw .senseless
    | command :: rest =>
      if Task.commands.contains command then return run (.ofWords words) command rest else throw .senseless

end Request
end BoxTree.Command
