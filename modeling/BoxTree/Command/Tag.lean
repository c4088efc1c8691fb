import BoxTree.Text.Blank
import BoxTree.Text.Case

/-! Tags in the texts of a table: a word in square brackets styles what follows, up to the tag that closes it. A
backslash before a tag takes its meaning away, and a doubled one stands for itself. -/

namespace BoxTree.Command

structure Tag where
  place : Nat
  name : String
  argument : Option String
deriving DecidableEq

inductive TagFault where
  | nothingOpen (place : Nat)
  | neverOpened (tag : Tag)
deriving DecidableEq

namespace Tag

def text (tag : Tag) : String :=
  match tag.argument with
  | some argument => s!"[{tag.name}={argument}]"
  | none => s!"[{tag.name}]"

def startsTag (c : Char) : Bool := ('a' ≤ c && c ≤ 'z') || c == '#' || c == '/' || c == '@'

/-- The letters of a tag after its opening bracket, and what follows the closing one. -/
def inside? : List Char → Option (List Char × List Char)
  | c :: rest =>
    if startsTag c then
      match rest.span fun c => c != '[' && c != ']' with
      | (more, ']' :: after) => some (c :: more, after)
      | _ => none
    else none
  | [] => none

def ofLetters (place : Nat) (letters : List Char) : Tag :=
  match letters.span (· != '=') with
  | (name, _ :: argument) => ⟨place, String.ofList name, some (String.ofList argument)⟩
  | (name, []) => ⟨place, String.ofList name, none⟩

def allFrom : Nat → Nat → List Char → List Tag
  | 0, _, _ | _, _, [] => []
  | fuel + 1, place, letters =>
    let (escapes, rest) := letters.span (· == '\\')
    let start := place + escapes.length
    match rest with
    | '[' :: more =>
      match inside? more with
      | some (content, after) =>
        let tags := allFrom fuel (start + content.length + 2) after
        if escapes.length % 2 == 1 then tags else ofLetters start content :: tags
      | none => allFrom fuel (start + 1) more
    | _ :: more => allFrom fuel (start + 1) more
    | [] => []

def all (text : String) : List Tag := allFrom text.length 0 text.toList

/-! ### Styles -/

/-- The attributes of letters, each under the names that it has besides its own. -/
def attributes : List (String × List String) :=
  [("bold", ["b"]), ("dim", ["d"]), ("italic", ["i"]), ("underline", ["u"]), ("blink", []), ("blink2", []),
    ("reverse", ["r"]), ("conceal", ["c"]), ("strike", ["s"]), ("underline2", ["uu"]), ("frame", []),
    ("encircle", []), ("overline", ["o"])]

def attribute? (word : String) : Option String :=
  (attributes.find? fun (name, others) => name == word || others.contains word).map (·.1)

def words (text : String) : List String :=
  ((text.toList.splitBy fun a b => Text.isSpacing a == Text.isSpacing b).filter
    fun word => !word.head?.any Text.isSpacing).map String.ofList

/-- A style under its usual name: attributes have an order, and other styles are told apart without case. -/
def styleName (text : String) : String :=
  match (words text).mapM fun word => attribute? (Text.lower word) with
  | some [] => "none"
  | some found => " ".intercalate ((attributes.map (·.1)).filter found.contains)
  | none => Text.lower (Text.trimmed text)

def step (opened : List String) (tag : Tag) : Except TagFault (List String) :=
  if tag.name.startsWith "/" then
    let name := Text.trimmed (tag.name.drop 1).toString
    match name.isEmpty, opened with
    | true, [] => .error (.nothingOpen tag.place)
    | true, _ :: rest => .ok rest
    | false, opened =>
      if opened.contains (styleName name) then .ok (opened.erase (styleName name)) else .error (.neverOpened tag)
  else .ok (styleName tag.name :: opened)

def check (text : String) : Except TagFault Unit := do
  let _ ← (all text).foldlM step []

end Tag

def TagFault.message : TagFault → String
  | nothingOpen place => s!"closing tag '[/]' at position {place} has nothing to close"
  | neverOpened tag => s!"closing tag '{tag.text}' at position {tag.place} doesn't match any open tag"

end BoxTree.Command
