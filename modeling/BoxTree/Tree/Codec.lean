import BoxTree.Text.Integer
import BoxTree.Tree.Basic
import BoxTree.Value.Order
import BoxTree.Value.Show

/-! Trees as documents: `{"nodes": [{"Box": [content, [1, 2]]}, {"AND": [3, 4]}, {"NOT": 5}, …],
"edgeNames": [[[0, 1], "name"], …]}`. Writing gives that form only. Reading is lenient: any value with
elements serves as a sequence, and any text or number that stands for a whole one as a position. -/

namespace BoxTree

abbrev DocumentTree := LinearTree Fields

inductive TreeDecodeError where
  | missingNodes
  /-- A value whose parts have no names; some have positions instead. -/
  | unnamedParts (kind : String)
  | noLength (kind : String)
  | noMembers (kind : String)
  | notOneVariant (keys : List Value)
  | incomparable (reason : Incomparable)
  | unknownVariant (tag : Value)
  | tooFew (count : Nat)
  | tooMany
  | notPair (kind : String)
  | noElements (kind : String)
  /-- An element of a list of entries that is no sequence, or one of the wrong length. -/
  | entryNoSequence (place : Nat)
  | entryLength (place length : Nat)
  | unusableKey (kind : String)
  | noNumber (kind : String)
  /-- A text, here in its quoted form, that spells no whole number. -/
  | badNumber (shown : String) (fault : Text.IntegerFault)
  | overlongName
  | undefinedNumber
  | infiniteNumber

namespace TreeDecodeError

inductive Category where
  | badValue
  | badKind
  | missingKey
  | missingMember
  | overflow
  | endless
deriving DecidableEq

def category : TreeDecodeError → Category
  | missingNodes => .missingKey
  | noMembers _ => .missingMember
  | infiniteNumber => .overflow
  | incomparable .endless => .endless
  | notOneVariant _ | unknownVariant _ | tooFew _ | tooMany | entryLength _ _ | badNumber _ _
  | overlongName | undefinedNumber => .badValue
  | unnamedParts _ | noLength _ | incomparable _ | notPair _ | noElements _ | entryNoSequence _
  | unusableKey _ | noNumber _ => .badKind

def unnamedPartsMessage (kind : String) : String :=
  if kind == "str" then "string indices must be integers, not 'str'"
  else if kind == "bytes" then "byte indices must be integers or slices, not str"
  else if kind == "list" || kind == "tuple" then s!"{kind} indices must be integers or slices, not str"
  else s!"'{kind}' object is not subscriptable"

def message : TreeDecodeError → String
  | missingNodes => "nodes"
  | unnamedParts kind => unnamedPartsMessage kind
  | noLength kind => s!"object of type '{kind}' has no len()"
  | noMembers kind => s!"'{kind}' object has no attribute 'items'"
  | notOneVariant keys =>
    if (Value.list keys).hasOverlong then Value.overlongMessage
    else "Tree node must have exactly one variant key, got [" ++ ", ".intercalate (Value.shownItems 0 keys) ++ "]"
  | incomparable reason => reason.message
  | unknownVariant tag =>
    if tag.hasOverlong then Value.overlongMessage else s!"Unknown tree node variant: '{tag.plain.displayed}'"
  | tooFew count => s!"not enough values to unpack (expected 2, got {count})"
  | tooMany => "too many values to unpack (expected 2)"
  | notPair kind => s!"cannot unpack non-iterable {kind} object"
  | noElements kind => s!"'{kind}' object is not iterable"
  | entryNoSequence place => s!"cannot convert dictionary update sequence element #{place} to a sequence"
  | entryLength place length =>
    s!"dictionary update sequence element #{place} has length {length}; 2 is required"
  | unusableKey kind => s!"unhashable type: '{kind}'"
  | noNumber kind =>
    s!"int() argument must be a string, a bytes-like object or a real number, not '{kind}'"
  | badNumber shown fault => fault.message 10 shown
  | overlongName => Value.overlongMessage
  | undefinedNumber => "cannot convert float NaN to integer"
  | infiniteNumber => "cannot convert float infinity to integer"

end TreeDecodeError

namespace Value

/-- The elements of a value that has some: keys of a mapping, letters of a text, numbers of bytes. -/
def elements? : Value → Option (List Value)
  | list items | tuple items | set items => some items
  | map entries => some (Entries.keys entries)
  | text content => some (content.letters.map fun letter => text (.ofLetters [letter]))
  | bytes content => some (content.map fun byte => int byte.toNat)
  | again _ _ around => around.elements?
  | _ => none

end Value

namespace TreeDecode

open TreeDecodeError

def elements (value : Value) : Except TreeDecodeError (List Value) :=
  match value.elements? with
  | some items => .ok items
  | none => .error (noElements value.kindName)

def pair (value : Value) : Except TreeDecodeError (Value × Value) :=
  match value.elements? with
  | none => .error (notPair value.kindName)
  | some [first, second] => .ok (first, second)
  | some items => .error (if items.length < 2 then tooFew items.length else tooMany)

/-- The whole number that a value stands for, cut towards zero. -/
def position : Value → Except TreeDecodeError Int
  | .int number => .ok number
  | .bool truth => .ok (if truth then 1 else 0)
  | .double number =>
    if number.isNaN then .error undefinedNumber
    else if number.isFinite then .ok number.truncate
    else .error infiniteNumber
  | .text content => (Text.integer content.standIns).mapError (badNumber content.quoted)
  | .bytes content => (Text.integer (Text.asciiLetters content)).mapError (badNumber (Text.quotedBytes content))
  | value => .error (noNumber value.kindName)

def entry (place : Nat) (value : Value) : Except TreeDecodeError (Value × Value) :=
  match value.elements? with
  | none => .error (entryNoSequence place)
  | some [key, item] =>
    match key.changing? with
    | some kind => .error (unusableKey kind)
    | none => .ok (key, item)
  | some items => .error (entryLength place items.length)

/-- The content of a box: a mapping, or a list of entries. -/
def content (value : Value) : Except TreeDecodeError Fields :=
  match value.opened with
  | .map entries => .ok entries
  | _ => do
    let entries ← (← elements value).zipIdx.mapM fun (item, place) => entry place item
    return Entries.ofEntries entries

def positions (value : Value) : Except TreeDecodeError (List Int) := do
  (← elements value).mapM position

def positionPair (value : Value) : Except TreeDecodeError (Int × Int) := do
  let (first, second) ← pair value
  return (← position first, ← position second)

def variant (tag value : Value) : Except TreeDecodeError (TreeNode Fields) :=
  match tag with
  | .text (.whole "Box") => do
    let (inside, children) ← pair value
    return .box (← content inside) (← positions children)
  | .text (.whole "AND") => do
    let (left, right) ← positionPair value
    return .and left right
  | .text (.whole "OR") => do
    let (left, right) ← positionPair value
    return .or left right
  | .text (.whole "NOT") => do return .not (← position value)
  | _ => .error (unknownVariant tag)

/-- One node: a mapping with a variant's name as its only key. -/
def node (value : Value) : Except TreeDecodeError (TreeNode Fields) :=
  match value.opened, value.elements? with
  | _, none => .error (noLength value.kindName)
  | .map [(tag, inside)], _ => variant tag inside
  | _, some [_] => .error (noMembers value.kindName)
  | _, some keys =>
    match Value.sorted keys with
    | .ok keys => .error (notOneVariant keys)
    | .error reason => .error (incomparable reason)

def nameText (value : Value) : Except TreeDecodeError Wording :=
  if value.hasOverlong then .error overlongName else .ok value.plain

/-- One edge name: a pair of positions and the name. -/
def edgeName (value : Value) : Except TreeDecodeError (EdgeKey × Wording) := do
  let (key, name) ← pair value
  let (parent, child) ← pair key
  return ((← position parent, ← position child), ← nameText name)

end TreeDecode

namespace TreeNode

def encode : TreeNode Fields → Value
  | box content children => .map [(.text "Box", .list [.map content, .list (children.map .int)])]
  | and left right => .map [(.text "AND", .list [.int left, .int right])]
  | or left right => .map [(.text "OR", .list [.int left, .int right])]
  | not child => .map [(.text "NOT", .int child)]

end TreeNode

namespace LinearTree

def encodeName (entry : EdgeKey × Wording) : Value :=
  .list [.list [.int entry.1.1, .int entry.1.2], .text entry.2]

def encode (tree : DocumentTree) : Value :=
  .map [(.text "nodes", .list (tree.nodes.map TreeNode.encode)),
    (.text "edgeNames", .list (tree.edgeNames.map encodeName))]

def decode (document : Value) : Except TreeDecodeError DocumentTree :=
  match document with
  | .map fields => do
    match Entries.getText? fields "nodes" with
    | none => .error .missingNodes
    | some nodes =>
      let nodes ← (← TreeDecode.elements nodes).mapM TreeDecode.node
      let names := (Entries.getText? fields "edgeNames").getD (.list [])
      return ⟨nodes, ← (← TreeDecode.elements names).mapM TreeDecode.edgeName⟩
  | other => .error (.unnamedParts other.kindName)

end LinearTree
end BoxTree
