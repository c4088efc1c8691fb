import BoxTree.Settings.Mark
import BoxTree.Settings.Overlay

/-! Settings as they are gathered. Among them are options that say how the later ones are read and merged. -/

namespace BoxTree

abbrev Environment := List (String × String)

abbrev Store := Entries Setting

namespace Store

/-! ### Options -/

def merging : String := "MERGE_ENABLED_FOR_DYNACONF"

/-- What leads on in a name besides a dot. -/
def separator : String := "NESTED_SEPARATOR_FOR_DYNACONF"

def marking : String := "AUTO_CAST_FOR_DYNACONF"

def dotting : String := "DOTTED_LOOKUP_FOR_DYNACONF"

def knownOnly : String := "IGNORE_UNKNOWN_ENVVARS_FOR_DYNACONF"

def variableStart : String := "ENVVAR_PREFIX_FOR_DYNACONF"

/-- What is read after the files. -/
def afterFiles : String := "LOADERS_FOR_DYNACONF"

def fileKinds : String := "CORE_LOADERS_FOR_DYNACONF"

def sectioned : String := "ENVIRONMENTS_FOR_DYNACONF"

def firstSection : String := "DEFAULT_ENV_FOR_DYNACONF"

def ownSection : String := "ENV_FOR_DYNACONF"

def filesVariable : String := "ENVVAR_FOR_DYNACONF"

def earlyFiles : String := "PRELOAD_FOR_DYNACONF"

def secretFiles : String := "SECRETS_FOR_DYNACONF"

def lateFiles : String := "INCLUDES_FOR_DYNACONF"

/-- The options that count here, as they are at first. -/
def options : Fields :=
  [(merging, .bool true), (separator, .text "__"), (marking, .bool true), (dotting, .bool true),
    (knownOnly, .bool false), (variableStart, .text "BINDINGTREE"),
    (afterFiles, .list [.text "dynaconf.loaders.env_loader"]),
    (fileKinds, .list (["YAML", "TOML", "INI", "JSON", "PY"].map fun (kind : String) => .text kind)), (sectioned, .bool false),
    (firstSection, .text "default"), (ownSection, .text "development"),
    (filesVariable, .text "SETTINGS_FILE_FOR_DYNACONF"), (earlyFiles, .list []), (secretFiles, .null),
    (lateFiles, .list [])].map fun (name, value) => (.text name, value)

/-- What other options are called before `_FOR_DYNACONF`. -/
def otherOptions : List String :=
  ["ALWAYS_FRESH_ENV", "APPLY_DEFAULT_ON_NONE", "BASE_ENV", "BASE_NAMESPACE", "COMMENTJSON_ENABLED",
    "DOTENV_OVERRIDE", "DOTENV_PATH", "DOTENV_VERBOSE", "ENCODING", "ENV_SWITCHER", "FORCE_ENV", "FRESH_VARS",
    "GLOBAL_ENV", "INSTANCE", "LOWER_READ", "MAIN_ENV", "NAMESPACE", "POST_HOOKS", "PROJECT_ROOT", "REDIS",
    "REDIS_ENABLED", "RENAMED_VARS", "ROOT_PATH", "SETTINGS_FILE", "SETTINGS_MODULE", "SILENT_ERRORS", "SKIP_FILES",
    "SKIP_VALIDATORS", "SYSENV_FALLBACK", "VALIDATE_EXCLUDE", "VALIDATE_ON_UPDATE", "VALIDATE_ONLY",
    "VALIDATE_ONLY_CURRENT_ENV", "VAULT", "VAULT_AUTH_ROLE", "VAULT_AUTH_WITH_IAM", "VAULT_ENABLED",
    "VAULT_MOUNT_POINT", "VAULT_PASSWORD", "VAULT_PATH", "VAULT_ROLE_ID", "VAULT_ROOT_TOKEN", "VAULT_SECRET_ID",
    "VAULT_USERNAME", "YAML_LOADER"]

/-- Names that say how settings are gathered and are no settings themselves. -/
def reserved : List String :=
  options.keys.map (·.plain.displayed) ++ otherOptions.map (· ++ "_FOR_DYNACONF") ++
    ["DYNACONF_ALWAYS_FRESH_VARS", "DYNACONF_NAMESPACE", "DYNACONF_SETTINGS", "DYNACONF_SETTINGS_MODULE",
      "DYNACONF_SILENT_ERRORS", "ENVIRONMENTS", "LOAD_DOTENV", "PROJECT_ROOT", "RENAMED_VARS", "SETTINGS_FILES",
      "SETTINGS_MODULE"]

def option (store : Store) (name : String) : Setting := (store.getText? name).getD (.plain .null)

def isOn (store : Store) (name : String) : Bool := (store.option name).isTruthy

def optionText (store : Store) (name : String) : String :=
  match store.option name with
  | .plain value => value.plain.displayed
  | _ => ""

/-- The names that a setting lists: its items, or the parts of a text between semicolons or else commas. -/
def listed : Setting → List String
  | .list items => items.filterMap fun item => match item with | .plain value => some value.plain.displayed | _ => none
  | .plain (.text (.whole content)) =>
    match [';', ','].find? content.toList.contains with
    | some mark => (content.splitOn (String.singleton mark)).map Text.trimmed
    | none => if content.isEmpty then [] else [content]
  | .plain value => if value.isVoid then [] else [value.plain.displayed]
  | _ => []

/-! ### Variables -/

def withSmallTruth (content : String) : String :=
  if ["True", "False"].contains (Text.trimmed content) then Text.lower content else content

/-- What the text of a variable says: a marked text, a value as settings files write it, or just text. -/
def ofVariable (marked : Bool) (content : String) : Except SettingError Setting :=
  Setting.ofText marked true (content.length + 1) (withSmallTruth content)

/-! ### Names -/

def topName (name : String) : String :=
  match name.splitOn "__" with
  | [] => ""
  | first :: rest => "__".intercalate (Text.upper first :: rest)

def dottedName (store : Store) (name : String) : String :=
  let between := store.optionText separator
  if between.isEmpty then name else name.replace between "."

def nested (names : List String) (setting : Setting) : Setting :=
  names.foldr (fun (name : String) inner => .map [(.text name, inner)]) setting

def setting? (store : Store) (name : String) : Option Setting :=
  match (store.dottedName name).splitOn "." with
  | [] => none
  | first :: rest => (store.getText? (topName first)).bind fun setting => setting.within? rest

/-! ### Setting -/

structure Manner where
  merges : Option Setting := none
  dots : Option Setting := none

def together (store : Store) (manner : Manner) (earlier setting : Setting) : Except SettingError Setting := do
  if manner.merges.any Setting.isTruthy then earlier.laidOver false [] setting
  else
    let merges := manner.merges.isNone && store.isOn merging
    let setting ←
      match setting with
      | .map entries =>
        let (own, setting) := Setting.unmarked entries
        let refuses := match own with | some (.plain (.bool false)) => true | _ => false
        if own.any Setting.isTruthy || (merges && !refuses) then earlier.laidOver false [] setting else pure setting
      | setting => pure setting
    match setting with
    | .list items =>
      match Setting.unmarkedItems items with
      | (none, _) => if merges then earlier.laidOver false [] setting else return setting
      | (some unique, rest) => earlier.laidOver unique [] (.list rest)
    | setting => return setting

/-- What a read setting at the top makes of an earlier one; nothing if that is removed. -/
def applied? (earlier : Option Setting) : Setting → Except SettingError (Option Setting)
  | .removal => .ok none
  | .reset value => .ok (some value)
  | .merge value unique =>
    match earlier with
    | some earlier => if earlier.isTruthy then some <$> earlier.laidOver unique [] value else .ok (some value)
    | none => .ok (some value)
  | .insert place item =>
    match earlier with
    | some (.list items) => .ok (some (.list (Setting.inserted items place item)))
    | _ => .ok (some (.list [item]))
  | setting => .ok (some setting)

def setTop (store : Store) (manner : Manner) (name : String) (setting : Setting) :
    Except SettingError Store := do
  let setting ← setting.read (store.isOn marking)
  let key := .text (topName (Text.trimmed name))
  let earlier := match setting with | .promise _ => none | _ => store.get? key
  match ← applied? earlier setting, earlier with
  | none, _ => return store.erase key
  | some setting, none => return store.put key setting
  | some setting, some earlier =>
    if earlier.isNull || earlier.same setting then return store.put key setting
    else return store.put key (← store.together manner earlier setting)

def initial (environment : Environment) : Except SettingError Store :=
  options.keys.foldlM
    (fun store name =>
      match environment.lookup name.plain.displayed with
      | some content => do
        store.setTop { } name.plain.displayed (← Setting.ofText (store.isOn marking) true (content.length + 1) content)
      | none => .ok store)
    (options.map fun (name, value) => (name, .ofValue value))

def setTops (store : Store) : Setting → Except SettingError Store
  | .map entries => entries.foldlM (fun store (name, value) => store.setTop { } name.plain.displayed value) store
  | _ => .ok store

def setNested (store : Store) (names : List String) (setting : Setting) : Except SettingError Store := do
  let later := nested names (← setting.read (store.isOn marking))
  let first := names.headD ""
  let key := .text (topName first)
  match (store.get? key).filter Setting.isTruthy with
  | none => store.setTops later
  | some before =>
    let earlier := (Setting.map [(.text first, before)]).withoutRemoved later
    let store : Store := match earlier with | .map [(_, kept)] => store.put key kept | _ => store
    store.setTops (← earlier.laidOver false names later)

def set (store : Store) (manner : Manner) (name : String) (setting : Setting) : Except SettingError Store :=
  let name := store.dottedName name
  let dots := (manner.dots.getD (store.option dotting)).isTruthy
  if dots && name.toList.contains '.' then store.setNested (name.splitOn ".") setting
  else store.setTop manner name setting

def setAll (store : Store) (manner : Manner) (source : Entries Setting) : Except SettingError Store :=
  source.foldlM (fun store (name, setting) => store.set manner name.plain.displayed setting) store

end Store
end BoxTree
