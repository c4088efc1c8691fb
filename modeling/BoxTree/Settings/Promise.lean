import BoxTree.Settings.Pattern
import BoxTree.Settings.Store

/-! Promised values. They are made when all sources are read, from other settings, variables and files. -/

namespace BoxTree

structure Promise.Means where
  store : Store
  environment : Environment
  disk : Disk

/-- A request for a setting: its name, the conversion of its value, and the text for the case that there is none. -/
structure Promise.Query where
  name : String
  conversion : Option Conversion
  default : String

namespace Promise

def isWordLetter (c : Char) : Bool := c.isAlphanum || c == '_' || (127 < c.toNat && !Text.isSpacing c)

def nameOf : List Char → List Char × List Char
  | '.' :: c :: rest =>
    if isWordLetter c then let (name, after) := nameOf (c :: rest); ('.' :: name, after) else ([], '.' :: c :: rest)
  | c :: rest =>
    if isWordLetter c then let (name, after) := nameOf rest; (c :: name, after) else ([], c :: rest)
  | [] => ([], [])

def conversionNamed? (word : List Char) : Option Conversion :=
  match Mark.all.lookup (String.ofList word) with
  | some (.conversion conversion) => some conversion
  | _ => none

def query? (request : String) : Option Query :=
  let (name, after) := nameOf (Text.trimmed request).toList
  if !name.head?.any isWordLetter then none
  else
    let rest := after.dropWhile Text.isSpacing
    let (word, last) := rest.span (· != ' ')
    let name := String.ofList name
    match conversionNamed? word with
    | some conversion => some ⟨name, some conversion, Text.trimmed (String.ofList last)⟩
    | none => some ⟨name, none, Text.trimmed (String.ofList rest)⟩

def stepped (way : String) (step : Pattern.Step) : Setting → Except SettingError Setting
  | .map entries => (Entries.named? entries step.name).elim (.error (.unknownName way)) .ok
  | .list items =>
    match step, Text.number? 10 step.name.toList with
    | .item _, some index => (items[index]?).elim (.error (.outOfRange "list")) .ok
    | .item _, none => .error (.namedItem "list")
    | .member name, _ => .error (.unknownName (SettingError.noMember "list" name))
  | .plain (.text content) =>
    match step, Text.number? 10 step.name.toList with
    | .item _, some index =>
      (content.letters[index]?).elim (.error (.outOfRange "string")) fun letter =>
        .ok (.plain (.text (.ofLetters [letter])))
    | .item _, none => .error (.namedItem "string")
    | .member name, _ => .error (.unknownName (SettingError.noMember "str" name))
  | .plain value =>
    match step with
    | .item _ => .error (.noItems value.kindName)
    | .member name => .error (.unknownName (SettingError.noMember value.kindName name))
  | _ => .error (.unknownName way)

def settingAt (store : Store) (settle : Setting → Except SettingError Value) (steps : List Pattern.Step) :
    Except SettingError Value := do
  let way := ".".intercalate (steps.map Pattern.Step.name)
  match steps with
  | [] => .error (.unknownName way)
  | first :: rest =>
    match store.getText? (Store.topName first.name) with
    | none => .error (.unknownName way)
    | some setting =>
      let found ← rest.foldlM
        (fun setting step => do
          let known ← match setting with | .promise _ => .ofValue <$> settle setting | setting => pure setting
          stepped way step known)
        setting
      settle found

/-- The value in a place of a pattern. All variables or all settings together have no text. -/
def placed (means : Means) (settle : Setting → Except SettingError Value) (name : String)
    (steps : List Pattern.Step) : Except SettingError Value :=
  match name, steps with
  | "env", .item name :: rest =>
    match means.environment.lookup name with
    | some content => do settle (← rest.foldlM (fun setting step => stepped "" step setting) (.text content))
    | none => .error (.unknownName (Text.quoted name))
  | "env", .member name :: _ => .error (.unknownName (SettingError.noMember "_Environ" name))
  | "env", [] | "this", [] => .ok (.text "")
  | "this", steps => settingAt means.store settle steps
  | name, _ =>
    match Text.number? 10 name.toList with
    | some index => .error (.unnamed index)
    | none => .error (.unknownName (Text.quoted name))

/-- A value with its quotes. Lists and mappings say what they are. -/
def quotedForm (value : Value) : String :=
  match value with
  | .list _ => "<BoxList: " ++ value.shown ++ ">"
  | .map _ => "<Box: " ++ value.shown ++ ">"
  | value => value.shown

def formed (value : Value) : Pattern.Form → Except SettingError Value
  | .plain => .ok value
  | .quoted => .ok (.text (quotedForm value))
  | .ascii => .ok (.text (Text.asciiShown (quotedForm value)))
  | .unknown letter => .error (.pattern ("Unknown conversion specifier " ++ Text.FieldFault.letterShown letter))

def laidOut (layout : String) (value : Value) : Except SettingError String :=
  match Text.fieldOf layout value with
  | .ok content => .ok content
  | .error (.noLayout "list") => .error (.field (.noLayout "BoxList"))
  | .error (.noLayout "dict") => .error (.field (.noLayout "DynaBox"))
  | .error fault => .error (.field fault)

def patternDepth : Nat := 2

def filled (means : Means) (settle : Setting → Except SettingError Value) :
    Nat → String → Except SettingError String
  | 0, _ => .error (.pattern "Max string recursion exceeded")
  | depth + 1, pattern => do
    let parts ← (Pattern.pieces pattern).mapM fun piece =>
      match piece with
      | .letters content => .ok content
      | .fault reason => .error (.pattern reason)
      | .place name steps fault form layout => do
        let value ← placed means settle name steps
        match fault with
        | some reason => .error (.pattern reason)
        | none =>
          let value ← formed value form
          laidOut (← if layout.toList.contains '\x7b' then filled means settle depth layout else pure layout) value
    return String.join parts

def ofSetting (means : Means) (settle : Setting → Except SettingError Value) (request : String) :
    Except SettingError Value :=
  match query? request with
  | none => .error (.malformedRequest request)
  | some query => do
    let value ←
      match means.store.setting? query.name with
      | some setting => settle setting
      | none => if query.default.isEmpty then .error (.noSetting query.name) else .ok (.text query.default)
    match query.conversion with
    | some conversion => conversion.ofValue value
    | none => return value

/-- The text of a file without blanks around, or the text that a request gives in its place. -/
def ofFile (means : Means) (request : String) : Except SettingError Value := do
  let (path, rest) := (Text.trimmed request).toList.span (· != ' ')
  let path := String.ofList path
  match (Text.trimmed (String.ofList rest)), ← (means.disk.read? (.ofText path)).mapError .place with
  | _, some content => return .text (Text.trimmed content)
  | "", none => .error (.noFile path)
  | default, none => return .text default

end Promise

namespace Setting

mutual
/-- The value of a setting whose promises are kept in some way. A change without an earlier setting stands for
nothing. -/
def settledBy (keep : Promise → Except SettingError Value) : Setting → Except SettingError Value
  | plain value => .ok value
  | list items => .list <$> settledItems keep items
  | map entries => .map <$> settledEntries keep entries
  | promise promised => keep promised
  | removal | reset _ | merge _ _ | insert _ _ => .ok .null

def settledItems (keep : Promise → Except SettingError Value) : List Setting → Except SettingError (List Value)
  | [] => .ok []
  | item :: rest => do return (← settledBy keep item) :: (← settledItems keep rest)

def settledEntries (keep : Promise → Except SettingError Value) :
    List (Value × Setting) → Except SettingError (List (Value × Value))
  | [] => .ok []
  | (key, setting) :: rest => do return (key, ← settledBy keep setting) :: (← settledEntries keep rest)
end

end Setting

namespace Promise

/-- Keep a promise. Promises that ask for others may do so a number of times. -/
def keep (means : Means) : Nat → Promise → Except SettingError Value
  | 0, promised => .error (.noSetting promised.request)
  | depth + 1, promised => do
    let settle := Setting.settledBy (keep means depth)
    let value ←
      match promised.source with
      | .pattern => (Value.text ∘ .whole) <$> filled means settle patternDepth promised.request
      | .template => .error .noTemplates
      | .setting => ofSetting means settle promised.request
      | .file => ofFile means promised.request
    match promised.conversion with
    | some conversion => conversion.ofValue value
    | none => return value

def depthLimit : Nat := 100

end Promise

namespace Promise.Means

def settled (means : Means) (setting : Setting) : Except SettingError Value :=
  setting.settledBy (Promise.keep means depthLimit)

end Promise.Means
end BoxTree
