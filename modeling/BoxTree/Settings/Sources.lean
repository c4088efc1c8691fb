import BoxTree.Files.Load
import BoxTree.Files.Wildcard
import BoxTree.Settings.Store

/-! The sources of settings: files, the local files beside them, and variables, in this order. -/

namespace BoxTree

namespace Path

/-- The file beside another one that holds local settings. -/
def localSettings (path : Path) : Path :=
  let letters := path.name.toList
  let after := (letters.reverse.takeWhile (· != '.')).reverse
  let before := letters.take (letters.length - after.length - 1)
  path.withName (String.ofList before ++ ".local." ++ String.ofList after)

def isLocal (path : Path) : Bool := (path.text.splitOn ".local.").length > 1

/-- The files that are read for a path, those that are local themselves last. -/
def settingsFiles (path : Path) (known : List Path) : List Path :=
  let (own, others) := (path.matching known).partition isLocal
  others ++ own

def beside (path : Path) (name : String) : Path :=
  let other := ofText name
  if other.root.isEmpty then ⟨path.root, path.parts.dropLast ++ other.parts⟩ else other

end Path

inductive SettingsLoadError where
  | document (error : DocumentError)
  | setting (error : SettingError)
  | schema (issues : List Schema.Issue)

namespace Store

structure FileKind where
  name : String
  endings : List String
  /-- Whether lines are read as they are written, whatever ends them. -/
  isRaw : Bool := false
  read : String → Except DocumentError Value

/-- Settings files may also be programs (`.py`), which would be executed to get at the settings. They are left out. -/
def kinds : List FileKind :=
  [{ name := "YAML", endings := [".yaml", ".yml"],
     read := fun text => (Yaml.read .tolerant text).mapError .yaml },
   { name := "TOML", endings := [".toml", ".tml"], isRaw := true,
     read := fun text => (Toml.read text).mapError .toml |>.map .map },
   { name := "JSON", endings := [".json"], read := fun text => (Json.read text).mapError .json }]

def kindOf? (store : Store) (path : Path) : Option FileKind :=
  kinds.find? fun kind =>
    (listed (store.option fileKinds)).contains kind.name &&
      kind.endings.any fun ending => ending.toList.isSuffixOf path.name.toList

/-- The document in a file. A file that is not there or cannot be read says nothing, and so does one of another
kind, programs among them. -/
def fileDocument (store : Store) (disk : Disk) (path : Path) : Except DocumentError Value :=
  match store.kindOf? path with
  | none => .ok .null
  | some kind =>
    match (if kind.isRaw then disk.readRaw? path else disk.read? path).toOption.join with
    | some text => kind.read text
    | none => .ok .null

/-- Entries under names in upper case. Of those that differ in case only the last counts. -/
def namedEntries (fields : Fields) : Entries Setting :=
  Entries.ofEntries (fields.map fun (key, value) => (.text (topName key.plain.displayed), .ofValue value))

/-- What a name says in a document, if that counts as true, or else what it says among the entries, from which it is
then taken. -/
def saying (fields : Fields) (name : String) (entries : Entries Setting) : Option Setting × Entries Setting :=
  match (fields.getText? name).map Setting.ofValue with
  | some said => if said.isTruthy then (some said, entries) else ofEntries
  | none => ofEntries
where
  ofEntries : Option Setting × Entries Setting :=
    (entries.getText? (Text.upper name), entries.erase (.text (Text.upper name)))

def withFields (store : Store) (document fields : Fields) : Except SettingError Store :=
  let (merges, entries) := saying document Setting.mergeMark (namedEntries fields)
  let (dots, entries) := saying document "dynaconf_dotted_lookup" entries
  store.setAll ⟨merges, dots⟩ entries

/-- The sections that are read, in this order. -/
def sections (store : Store) : List String :=
  [store.optionText firstSection, store.optionText variableStart, store.optionText ownSection, "global"].map
    Text.lower

/-- Settings with those in the sections of a document. Names count without case. -/
def withSections (store : Store) (document : Fields) : Except SettingError Store :=
  let document : Fields := Entries.ofEntries (document.map fun (key, value) => (.text key.plain.lower, value))
  store.sections.eraseDups.foldlM
    (fun store name =>
      match document.getText? name with
      | some (.map fields) => store.withFields document fields
      | _ => .ok store)
    store

def withFile (store : Store) (disk : Disk) (path : Path) : Except SettingsLoadError Store := do
  let document ← (store.fileDocument disk path).mapError .document
  let areSectioned := match store.option sectioned with | .plain (.bool false) => false | _ => true
  match document with
  | .map fields =>
    (if areSectioned then store.withSections fields else store.withFields fields fields).mapError .setting
  | value => if value.isVoid then return store else throw (.setting (.noDocument value.kindName))

/-- Settings with those of a file, of the secret files, which are beside it or in the working directory, and then of
the local files beside all these. -/
def withPath (store : Store) (disk : Disk) (path : Path) : Except SettingsLoadError Store :=
  let isThere (path : Path) : Bool := (disk.holds path).toOption.getD false
  let secrets := (listed (store.option secretFiles)).filterMap fun name =>
    [path.beside name, .ofText name].find? isThere
  let files := path :: secrets
  let besides := (files.filter fun file => !file.isLocal).map Path.localSettings
  (files ++ besides).foldlM (fun store file => store.withFile disk file) store

def withPaths (store : Store) (disk : Disk) (paths : List Path) : Except SettingsLoadError Store :=
  (paths.flatMap fun path => path.settingsFiles disk.known).eraseDups.foldlM
    (fun store path => store.withPath disk path) store

/-- The settings files: the ones that a variable names, or else a given one. -/
def settingsPaths (store : Store) (environment : Environment) (path : Path) : Except SettingError (List Path) :=
  match environment.lookup (store.optionText filesVariable) with
  | some content => do
    return (listed (← Setting.ofText (store.isOn marking) true (content.length + 1) content)).map .ofText
  | none => .ok [path]

/-- What the names of variables with settings begin with; the later kind is laid over the earlier. -/
def variableStarts (store : Store) : List String :=
  let own := (store.optionText variableStart).splitOn ","
  let all := if own.map Text.upper == ["DYNACONF"] then own else "DYNACONF" :: own
  all.map fun start => if start.isEmpty then "" else Text.upper start ++ "_"

/-- The settings in variables whose names begin in some way. All are read before the first one is set. -/
def withVariablesAfter (store : Store) (environment : Environment) (start : String) : Except SettingError Store := do
  let named := environment.filterMap fun (name, content) =>
    if start.toList.isPrefixOf name.toList then some (String.ofList (name.toList.drop start.length), content)
    else none
  let known := named.filter fun (name, _) => !store.isOn knownOnly || (store.setting? name).isSome
  let entries ← known.mapM fun (name, content) => do
    return (Value.text name, ← ofVariable (store.isOn marking) content)
  store.setAll { } entries

def withVariables (store : Store) (environment : Environment) : Except SettingError Store :=
  if store.isOn afterFiles then
    store.variableStarts.foldlM (fun store start => store.withVariablesAfter environment start) store
  else .ok store

/-- The name under which settings list files that are read when all other sources are. -/
def inclusion : String := "DYNACONF_INCLUDE"

/-- The files that are read when all other sources are. -/
def latePaths (store : Store) : Except SettingError (List String) :=
  match store.getText? inclusion with
  | none => .ok (listed (store.option lateFiles))
  | some (.list items) => .ok (listed (.list items) ++ listed (store.option lateFiles))
  | some (.plain value) => .error (.noExtension value.kindName)
  | some _ => .error (.noExtension "DynaBox")

def gathered (disk : Disk) (environment : Environment) (path : Path) : Except SettingsLoadError Store := do
  let store ← (initial environment).mapError .setting
  let early := (listed (store.option earlyFiles)).map Path.ofText
  let own ← (store.settingsPaths environment path).mapError .setting
  let fromFiles ← (← store.withPaths disk early).withPaths disk own
  let store ← (fromFiles.withVariables environment).mapError .setting
  let late ← store.latePaths.mapError .setting
  if late.isEmpty then return store
  let base := ((early ++ own).find? fun path => (store.kindOf? path).isSome).getD (.ofText "")
  let store ← store.withPaths disk (late.map base.beside)
  (store.withVariables environment).mapError .setting

end Store
end BoxTree
