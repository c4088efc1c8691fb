import BoxTree.Number.Double
import BoxTree.Text.Wording
import BoxTree.Value.Moment

/-! The values that documents hold. A mapping is a list of entries in document order; its keys may be
any value that can be compared by content. A list or mapping may stand inside itself, where it goes on for ever; it is
told as far as documents are looked into. -/

namespace BoxTree

inductive Value where
  | null
  | bool (truth : Bool)
  | int (number : Int)
  | double (number : Double)
  | text (content : Wording)
  | bytes (content : List UInt8)
  | date (day : Date)
  | moment (time : Moment)
  | list (items : List Value)
  | tuple (items : List Value)
  | set (items : List Value)
  | map (entries : List (Value × Value))
  /-- A value that stands around this place, once more. It is told from others by its number; `steps` counts the lists
  and mappings on the way out to it. -/
  | again (number steps : Nat) (around : Value)
deriving Inhabited

abbrev Entries (α : Type) := List (Value × α)

abbrev Fields := Entries Value

namespace Value

def kindName : Value → String
  | null => "NoneType"
  | bool _ => "bool"
  | int _ => "int"
  | double _ => "float"
  | text _ => "str"
  | bytes _ => "bytes"
  | date _ => "datetime.date"
  | moment _ => "datetime.datetime"
  | list _ => "list"
  | tuple _ => "tuple"
  | set _ => "set"
  | map _ => "dict"
  | again _ _ around => around.kindName

/-- A value as it is where it stands first. -/
def opened : Value → Value
  | again _ _ around => around.opened
  | value => value

/-- The number that a whole value stands for; truth counts as one and falsehood as zero. -/
def whole? : Value → Option Int
  | bool truth => some (if truth then 1 else 0)
  | int number => some number
  | double number => number.whole?
  | _ => none

def isVoid : Value → Bool
  | null => true
  | bool truth => !truth
  | int number => number == 0
  | double number => number.isZero
  | text content => content.isEmpty
  | bytes content => content.isEmpty
  | list items | tuple items | set items => items.isEmpty
  | map entries => entries.isEmpty
  | date _ | moment _ => false
  | again _ _ around => around.isVoid

mutual
/-- Equality by content: numbers agree across kinds, mappings agree whatever the order of their entries. -/
def same : Value → Value → Bool
  | null, null => true
  | text a, text b => a == b
  | bytes a, bytes b => a == b
  | date a, date b => a == b
  | moment a, moment b => a.same b
  | double a, double b => a.same b
  | list a, list b => sameItems a b
  | tuple a, tuple b => sameItems a b
  | set a, set b => a.length == b.length && sameMembers a b
  | map a, map b => a.length == b.length && sameEntries a b
  | again _ _ a, again _ _ b => same a b
  | a, b =>
    match a.whole?, b.whole? with
    | some left, some right => left == right
    | _, _ => false
termination_by structural left => left

def sameItems : List Value → List Value → Bool
  | [], [] => true
  | a :: as, b :: bs => same a b && sameItems as bs
  | _, _ => false
termination_by structural left => left

def sameMembers : List Value → List Value → Bool
  | [], _ => true
  | a :: as, bs => bs.any (same a) && sameMembers as bs
termination_by structural left => left

def sameEntries : List (Value × Value) → List (Value × Value) → Bool
  | [], _ => true
  | entry :: rest, others => sameEntry entry others && sameEntries rest others
termination_by structural left => left

def sameEntry : Value × Value → List (Value × Value) → Bool
  | (key, value), others =>
    match others.find? fun other => same key other.1 with
    | some other => same value other.2
    | none => false
termination_by structural left => left
end

mutual
/-- The kind that keeps a value from being a key: lists, sets and mappings change. -/
def changing? : Value → Option String
  | list _ => some "list"
  | set _ => some "set"
  | map _ => some "dict"
  | tuple items => changingAmong? items
  | again _ _ around => changing? around
  | _ => none

def changingAmong? : List Value → Option String
  | [] => none
  | item :: rest => (changing? item).or (changingAmong? rest)
end

end Value

namespace Entries

variable {α : Type}

def get? (entries : Entries α) (key : Value) : Option α :=
  (entries.find? fun entry => entry.1.same key).map (·.2)

def getText? (entries : Entries α) (key : String) : Option α := entries.get? (.text key)

/-- Set a key: an entry with that key keeps its place and its own key, a new one goes to the end. -/
def put (key : Value) (value : α) : Entries α → Entries α
  | [] => [(key, value)]
  | (k, v) :: rest => if k.same key then (k, value) :: rest else (k, v) :: put key value rest

def ofEntries (entries : List (Value × α)) : Entries α :=
  entries.foldl (fun done entry => done.put entry.1 entry.2) []

def erase (key : Value) (entries : Entries α) : Entries α := entries.filter fun entry => !entry.1.same key

def keys (entries : Entries α) : List Value := entries.map (·.1)

end Entries
end BoxTree
