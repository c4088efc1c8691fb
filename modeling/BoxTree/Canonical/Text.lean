import BoxTree.Canonical.Digest
import BoxTree.Latest
import BoxTree.Text.Units
import BoxTree.Value.Show

/-! Canonical text of a value: no blanks, keys as texts in the order of their UTF-16 units, numbers
and escapes in one fixed form. Equal values have equal canonical text, whatever the order of their
entries, so its digest identifies them. -/

namespace BoxTree

inductive CanonicalError where
  | notFinite (number : Double)
  | beyondDouble (number : Int)
  | overlong
  | unsupported (kind : String)
  | brokenText
  | brokenKey (key : Broken)
  | endless

namespace CanonicalError

def message : CanonicalError → String
  | notFinite number =>
    s!"Cannot canonicalize non-finite float: {number.text}. Use None for missing values, not NaN."
  | beyondDouble number => s!"{number} exceeds safe integer domain for JSON floats"
  | overlong => Value.overlongMessage
  | unsupported kind => s!"unsupported type: <class '{kind}'>"
  | brokenText => "input contains non-UTF-8 codepoints"
  | brokenKey key =>
    let (before, after) := key.letters.span (!·.isHalf)
    let half := String.ofList ((after.take 1).flatMap Letter.displayed)
    s!"'utf-16-be' codec can't encode character '{half}' in position {before.length}: surrogates not allowed"
  | endless => "maximum recursion depth exceeded"

end CanonicalError

namespace Value

mutual
/-- The first number of a value that is not finite, or the first key without a text, or the first value inside itself. -/
def fault? : Value → Option CanonicalError
  | double number => if number.isFinite then none else some (.notFinite number)
  | list items => faultAmong? items
  | tuple items => faultAmong? items
  | map entries => faultUnder? entries
  | again _ _ _ => some .endless
  | _ => none

def faultAmong? : List Value → Option CanonicalError
  | [] => none
  | item :: rest => (fault? item).or (faultAmong? rest)

def faultUnder? : List (Value × Value) → Option CanonicalError
  | [] => none
  | (key, value) :: rest => if key.hasOverlong then some .overlong else (fault? value).or (faultUnder? rest)
end

end Value

namespace Canonical

def escape (c : Char) : List Char :=
  if c == '"' then ['\\', '"']
  else if c == '\\' then ['\\', '\\']
  else if c == '\x08' then ['\\', 'b']
  else if c == '\t' then ['\\', 't']
  else if c == '\n' then ['\\', 'n']
  else if c == '\x0c' then ['\\', 'f']
  else if c == '\r' then ['\\', 'r']
  else if c.toNat < 0x20 then ['\\', 'u'] ++ Text.hexDigits 4 c.toNat
  else [c]

def textLetters (text : String) : List Char :=
  '"' :: text.toList.flatMap escape ++ ['"']

/-- The largest whole number below which doubles hold every whole number. -/
def largestExact : Int := Int.pow 2 53 - 1

def intLetters (number : Int) : Except CanonicalError (List Char) :=
  if -largestExact ≤ number ∧ number ≤ largestExact then .ok (toString number).toList
  else if Value.overlong number then .error .overlong
  else .error (.beyondDouble number)

/-- Members under keys that can be written, or the fault of the first one that cannot. -/
def named {α : Type} : List (Wording × α) → Except CanonicalError (List (String × α))
  | [] => .ok []
  | (.whole key, part) :: rest => do return (key, part) :: (← named rest)
  | (.broken key, _) :: _ => .error (.brokenKey key)

def sortKeys {α : Type} (members : List (String × α)) : List (String × α) :=
  members.mergeSort fun left right => Text.unitsLe left.1 right.1

def commaSeparated : List (List Char) → List Char
  | [] => []
  | [part] => part
  | part :: rest => part ++ ',' :: commaSeparated rest

def array (parts : List (List Char)) : List Char :=
  '[' :: commaSeparated parts ++ [']']

def object (members : List (String × List Char)) : List Char :=
  '{' :: commaSeparated (members.map fun (key, part) => textLetters key ++ ':' :: part) ++ ['}']

/-- The members of an object, or the fault of the first one in order. -/
def collect {α : Type} : List (String × Except CanonicalError α) → Except CanonicalError (List (String × α))
  | [] => .ok []
  | (key, part) :: rest => do return (key, ← part) :: (← collect rest)

end Canonical

namespace Value

open Canonical

mutual
/-- The canonical letters of a value whose numbers are finite, whose keys have texts, and that ends. Of the entries with
one key the last is written. -/
def letters : Value → Except CanonicalError (List Char)
  | null => .ok "null".toList
  | bool truth => .ok (if truth then "true" else "false").toList
  | int number => intLetters number
  | double number => .ok (Layout.canonical.letters number)
  | text (.whole content) => .ok (textLetters content)
  | text (.broken _) => .error .brokenText
  | list items => do return array (← itemLetters items)
  | tuple items => do return array (← itemLetters items)
  | map entries => do return object (← collect (sortKeys (← named (latest (·.1) (memberLetters entries)))))
  | value => .error (.unsupported value.kindName)

def itemLetters : List Value → Except CanonicalError (List (List Char))
  | [] => .ok []
  | item :: rest => do return (← letters item) :: (← itemLetters rest)

def memberLetters : List (Value × Value) → List (Wording × Except CanonicalError (List Char))
  | [] => []
  | (key, value) :: rest => (key.plain, letters value) :: memberLetters rest
end

/-- Canonical text. Values inside themselves, numbers that are not finite and keys without a text are reported before any
other fault. -/
def canonical (value : Value) : Except CanonicalError String :=
  match value.fault? with
  | some fault => .error fault
  | none => String.ofList <$> value.letters

def fingerprint (value : Value) : Except CanonicalError String := do
  return Digest.hex (← value.canonical).toUTF8.toList

end Value
end BoxTree
