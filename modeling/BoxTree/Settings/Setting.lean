import BoxTree.Files.Disk
import BoxTree.Text.Case
import BoxTree.Text.Field
import BoxTree.Text.Integer
import BoxTree.Text.Quoted
import BoxTree.Value.Basic

/-! What sources say of a setting: a value, a promise of one that is kept when all sources are read, or a change
of what earlier sources said. -/

namespace BoxTree

inductive Conversion where
  | text
  | whole
  | number
  | truth
  | json
deriving DecidableEq

inductive Promise.Source where
  | pattern
  | template
  | setting
  | file
deriving DecidableEq

structure Promise where
  source : Promise.Source
  request : String
  conversion : Option Conversion := none
deriving DecidableEq

inductive Setting where
  /-- A value without parts that sources may change. -/
  | plain (value : Value)
  | list (items : List Setting)
  | map (entries : List (Value × Setting))
  | promise (promise : Promise)
  | removal
  | reset (value : Setting)
  /-- A value laid over the earlier one; if `unique`, without items that it holds itself. -/
  | merge (value : Setting) (unique : Bool)
  | insert (place : Int) (item : Setting)
deriving Inhabited

inductive SettingError where
  | noWhole (text : String) (fault : Text.IntegerFault)
  | noNumber (text : String)
  | noJson (text : String)
  | number (fault : Text.IntegerFault)
  | noPlace (text : String) (fault : Text.IntegerFault)
  | noSetting (name : String)
  | malformedRequest (text : String)
  | noFile (path : String)
  | place (error : PlaceError)
  | noTemplates
  | unknownName (shown : String)
  | unnamed (index : Nat)
  | pattern (reason : String)
  | field (fault : Text.FieldFault)
  | noItems (kind : String)
  | outOfRange (kind : String)
  | namedItem (kind : String)
  | noTextKey (kind : String)
  | mapForList
  | noExtension (kind : String)
  | noDocument (kind : String)
  | endless

namespace SettingError

def noMember (kind name : String) : String := s!"'{kind}' object has no attribute '{name}'"

def message : SettingError → String
  | noWhole text fault =>
    s!"Cannot convert '{text}' to integer: " ++ fault.message 10 (Text.quoted text)
  | noNumber text => s!"Cannot convert '{text}' to float: could not convert string to float: " ++ Text.quoted text
  | noJson text => s!"Cannot parse as JSON: {text}"
  | number fault => fault.message 10 ""
  | noPlace text fault => fault.message 10 (Text.quoted text)
  | noSetting name => s!"Key {name} not found in settings and no default value provided."
  | malformedRequest text => s!"Error parsing {text} malformed syntax."
  | noFile path => s!"File {path} does not exist and no default value provided."
  | place error => error.message
  | noTemplates => "jinja2 must be installed to enable '@jinja' settings in dynaconf"
  | unknownName shown => s!"Dynaconf can't interpolate variable because {shown}"
  | unnamed index => s!"Replacement index {index} out of range for positional args tuple"
  | pattern reason => reason
  | field fault => fault.message
  | noItems kind => s!"'{kind}' object is not subscriptable"
  | outOfRange kind => s!"{kind} index out of range"
  | namedItem kind =>
    if kind == "string" then "string indices must be integers, not 'str'"
    else s!"{kind} indices must be integers or slices, not str"
  | mapForList => "unhashable type: 'slice'"
  | noTextKey kind => noMember kind "lower"
  | noExtension kind => noMember kind "extend"
  | noDocument kind => noMember kind "get"
  | endless => "maximum recursion depth exceeded"

end SettingError

namespace Setting

mutual
def ofValue : Value → Setting
  | .list items | .tuple items => list (ofItems items)
  | .map entries => map (ofEntries entries)
  | value => plain value

def ofItems : List Value → List Setting
  | [] => []
  | item :: rest => ofValue item :: ofItems rest

def ofEntries : List (Value × Value) → List (Value × Setting)
  | [] => []
  | (key, value) :: rest => (key, ofValue value) :: ofEntries rest
end

def text (content : String) : Setting := plain (.text content)

/-- Whether there is nothing: no setting, or a null. -/
def isNull : Setting → Bool
  | plain .null => true
  | _ => false

/-- Whether a setting counts as true: it is something other than zero, and has content. -/
def isTruthy : Setting → Bool
  | plain value => !value.isVoid
  | list items => !items.isEmpty
  | map entries => !entries.isEmpty
  | _ => true

/-- Whether a setting is a truth value, or a number that stands for one. -/
def isTruth : Setting → Bool
  | plain value => value.whole? == some 0 || value.whole? == some 1
  | _ => false

mutual
/-- Equality of content. A change of earlier settings is like no other. -/
def same : Setting → Setting → Bool
  | plain a, plain b => a.same b
  | list a, list b => sameItems a b
  | map a, map b => a.length == b.length && sameEntries a b
  | promise a, promise b => a == b
  | _, _ => false
termination_by structural left => left

def sameItems : List Setting → List Setting → Bool
  | [], [] => true
  | a :: as, b :: bs => same a b && sameItems as bs
  | _, _ => false
termination_by structural left => left

def sameEntries : List (Value × Setting) → List (Value × Setting) → Bool
  | [], _ => true
  | entry :: rest, others => sameEntry entry others && sameEntries rest others
termination_by structural left => left

def sameEntry : Value × Setting → List (Value × Setting) → Bool
  | (key, setting), others =>
    match others.find? fun other => key.same other.1 with
    | some other => same setting other.2
    | none => false
termination_by structural left => left
end

def holdsText (items : List Setting) (content : String) : Bool := items.any (same (text content))

def withoutText (content : String) (items : List Setting) : List Setting :=
  items.eraseP (same (text content))

/-- A list with an item at a place, which counts from the end if it is negative. -/
def inserted (items : List Setting) (place : Int) (item : Setting) : List Setting :=
  let position := if place < 0 then (items.length + place).toNat else place.toNat
  items.take position ++ item :: items.drop position

end Setting

namespace Entries

/-- Whether a name stands for a key, in any case and with underscores for blanks. -/
def names (name key : String) : Bool :=
  Text.lower key == Text.lower name ||
    Text.lower (String.ofList (key.toList.map fun c => if c == ' ' then '_' else c)) == Text.lower name

/-- The key that a name stands for: the name itself, or the first that it names before a key that is no
text. -/
def keyNamed? {α : Type} (name : String) (entries : Entries α) : Option String :=
  if (entries.getText? name).isSome then some name else search entries
where
  search : Entries α → Option String
    | (.text (.whole key), _) :: rest => if names name key then some key else search rest
    | (.text (.broken _), _) :: rest => search rest
    | _ => none

/-- What stands under the key that a name stands for. -/
def named? {α : Type} (entries : Entries α) (name : String) : Option α :=
  (entries.keyNamed? name).bind entries.getText?

end Entries

namespace Setting

def within? : Setting → List String → Option Setting
  | setting, [] => some setting
  | map entries, name :: rest => (Entries.named? entries name).bind fun setting => setting.within? rest
  | _, _ :: _ => none
termination_by _ names => names.length

end Setting
end BoxTree
