import BoxTree.Markup.Toml.Reader
import BoxTree.Settings.Conversion
import BoxTree.Text.WordCase

/-! Texts that say themselves how they are to be read: the first word may be a mark, which says what becomes of the
text after it. -/

namespace BoxTree

inductive Mark where
  | conversion (conversion : Conversion)
  | spelling (change : String → String)
  | promise (source : Promise.Source)
  | remark
  | removal
  | reset
  | merge (unique : Bool)
  | insert

namespace Mark

def withoutStart (content : String) : String := String.ofList (content.toList.dropWhile Text.isSpacing)

def withoutEnd (content : String) : String := String.ofList (Text.trimEnd Text.isSpacing content.toList)

def promises : List (String × Promise.Source) :=
  [("@jinja", .template), ("@format", .pattern), ("@read_file", .file), ("@get", .setting)]

def all : List (String × Mark) :=
  promises.map (fun (word, source) => (word, promise source)) ++
  [("@str", conversion .text), ("@int", conversion .whole), ("@float", conversion .number),
    ("@bool", conversion .truth), ("@json", conversion .json), ("@upper", spelling Text.upper),
    ("@lower", spelling Text.lower), ("@title", spelling Text.title), ("@capitalize", spelling Text.capitalized),
    ("@strip", spelling Text.trimmed), ("@lstrip", spelling withoutStart), ("@rstrip", spelling withoutEnd),
    ("@casefold", spelling Text.folded), ("@swapcase", spelling Text.swapped), ("@note", remark),
    ("@comment", remark), ("@null", remark), ("@none", remark), ("@empty", remark), ("@del", removal),
    ("@reset", reset), ("@merge", merge false), ("@merge_unique", merge true), ("@insert", insert)]

def promised? (content : String) : Option (Promise.Source × String) :=
  (promises.find? fun entry => entry.1.toList.isPrefixOf content.toList).map fun (word, source) =>
    (source, Text.trimmed (String.ofList (content.toList.drop word.length)))

end Mark

namespace Setting

/-- A text as settings files write values; one that they would not write is just text. -/
def ofToml (content : String) : Except SettingError Setting :=
  match Toml.read ("key=" ++ content) with
  | .ok fields => .ok (ofValue ((fields.getText? "key").getD (.text content)))
  | .error (.number fault) => .error (.number fault)
  | .error (.misplaced _ _) => .ok (text content)

def isNameLetter (c : Char) : Bool := c.isAlphanum || c == ' '

def isAmountLetter (c : Char) : Bool := c.isAlphanum || c == ' ' || c == '-' || c == ':'

def pairsIn : Nat → List Char → List (String × String)
  | 0, _ => []
  | fuel + 1, letters =>
    let (name, afterName) := letters.span isNameLetter
    match afterName with
    | '=' :: rest =>
      let (amount, after) := rest.span isAmountLetter
      (Text.trimmed (String.ofList name), Mark.withoutEnd (String.ofList amount)) :: pairsIn fuel after
    | _ :: rest => pairsIn fuel rest
    | [] => []

def jsonWords : List (String × String) :=
  [(": True", ": true"), (":True", ": true"), (": False", ": false"), (":False", ": false"),
    (": None", ": null"), (":None", ": null")]

/-- What a text asks to be merged: an object in it, its pairs of names and values, or its parts between commas. -/
def ofParts (readPart : String → Except SettingError Setting) (content : String) : Except SettingError Setting := do
  match onlyObject? (replacing jsonWords content), pairsIn (content.length + 1) content.toList with
  | some object, _ => return ofValue object
  | none, [] => return list ((content.splitOn ",").map text)
  | none, pairs =>
    let entries ← pairs.mapM fun (name, amount) => do return (Value.text name, ← readPart amount)
    return map (Entries.ofEntries entries)

/-- The place and the text of an item to insert. Without a place it comes first. -/
def placeAndItem (content : String) : Except SettingError (Int × String) :=
  let unsigned := content.toList.dropWhile fun c => c == '-' || c == '+'
  match unsigned.head?.any fun c => (Text.digitValue? c).isSome, content.toList.span (· != ' ') with
  | true, (place, _ :: item) =>
    match Text.integer place with
    | .ok position => .ok (position, String.ofList item)
    | .error fault => .error (.noPlace (String.ofList place) fault)
  | _, _ => .ok (0, content)

/-- What a marked text says; `readPart` reads the text after the mark where it may be marked itself. -/
def ofMarked (readPart : String → Except SettingError Setting) (content : String) :
    Mark → Except SettingError Setting
  | .conversion conversion =>
    match Mark.promised? content with
    | some (source, request) => .ok (promise ⟨source, request, some conversion⟩)
    | none => ofValue <$> conversion.ofText content
  | .spelling change => .ok (text (change content))
  | .promise source => .ok (promise { source, request := content })
  | .remark => .ok (plain .null)
  | .removal => .ok removal
  | .reset => reset <$> readPart content
  | .merge unique => do
    match ← readPart content with
    | plain (.text (.whole content)) => return merge (← ofParts readPart content) unique
    | plain (.bool truth) => return merge (list [plain (.bool truth)]) unique
    | plain (.int amount) => return merge (list [plain (.int amount)]) unique
    | plain (.double amount) => return merge (list [plain (.double amount)]) unique
    | value => return merge value unique
  | .insert => do
    let (place, item) ← placeAndItem content
    return insert place (← readPart item)

/-- What a text says. Marks count only if they are asked for; a text without one may stand for a value of another
kind if it is `typed`. Marks may follow one another. -/
def ofText (marked : Bool) : Bool → Nat → String → Except SettingError Setting
  | _, 0, content => .ok (text content)
  | typed, fuel + 1, content =>
    let (word, rest) := content.toList.span (· != ' ')
    match if marked then Mark.all.lookup (String.ofList word) else none with
    | some mark => ofMarked (ofText marked true fuel) (String.ofList (rest.drop 1)) mark
    | none => if typed then ofToml content else .ok (text content)

mutual
def read (marked : Bool) : Setting → Except SettingError Setting
  | plain (.text (.whole content)) => ofText marked false (content.length + 1) content
  | plain (.again _ _ _) => .error .endless
  | list items => list <$> readItems marked items
  | map entries => map <$> readEntries marked entries
  | setting => .ok setting

def readItems (marked : Bool) : List Setting → Except SettingError (List Setting)
  | [] => .ok []
  | item :: rest => do return (← read marked item) :: (← readItems marked rest)

def readEntries (marked : Bool) : List (Value × Setting) → Except SettingError (List (Value × Setting))
  | [] => .ok []
  | (key, value) :: rest => do return (key, ← read marked value) :: (← readEntries marked rest)
end

end Setting
end BoxTree
