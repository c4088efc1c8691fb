import BoxTree.Schema.Scalar
import BoxTree.Value.Show

/-! Checks of lists, mappings and records. Every part is checked and all issues are reported: those of
a record in the order of its declaration, those of a list or mapping in document order. -/

namespace BoxTree.Schema

open Checked

variable {α : Type}

def sequence? (value : Value) : Option (List Value) :=
  match value.opened with
  | .list items | .tuple items | .set items => some items
  | _ => none

def items (wanted : Kind) (check : Value → Checked α) (value : Value) : Checked (List α) :=
  match sequence? value with
  | none => fail (.wrongKind wanted)
  | some values => all (values.zipIdx.map fun (value, index) => (check value).under (.place index))

def list (check : Value → Checked α) (value : Value) : Checked (List α) := items .list check value

def tuple (check : Value → Checked α) (value : Value) : Checked (List α) := items .tuple check value

def stepOf : Value → Step
  | .text name => .key name.displayed
  | .bool truth => .place (if truth then 1 else 0)
  | .int number => if fitsWord number then .place number else .key (toString number)
  | key => .key key.shown

/-- An entry whose key is a text. An issue with the key does not keep its value from being checked. -/
def entry (check : Value → Checked α) (key value : Value) : Checked (Wording × α) :=
  Prod.mk <$> ((text key).under (.key "[key]")).under (stepOf key) <*> (check value).under (stepOf key)

def putName (name : Wording) (item : α) : List (Wording × α) → List (Wording × α)
  | [] => [(name, item)]
  | other :: rest => if other.1 = name then (name, item) :: rest else other :: putName name item rest

def mapping (check : Value → Checked α) (value : Value) : Checked (List (Wording × α)) :=
  match value.opened with
  | .map entries =>
    (all (entries.map fun (key, value) => entry check key value)).map fun named =>
      named.foldl (fun done (name, item) => putName name item done) []
  | _ => fail (.wrongKind .mapping)

def record (name : String) (check : Fields → Checked α) (value : Value) : Checked α :=
  match value.opened with
  | .map fields => check fields
  | _ => fail (.wrongKind (.record name))

/-- A part of a record under the first of its names that is there; the first one is used in documents
that leave the part out. -/
def part (fields : Fields) (names : List String) (absent : Checked α) (check : Value → Checked α) : Checked α :=
  match names.findSome? fun name => (Entries.getText? fields name).map (name, ·) with
  | some (name, value) => (check value).under (.key name)
  | none => absent

def required (fields : Fields) (names : List String) (check : Value → Checked α) : Checked α :=
  part fields names ((fail .missing).under (.key (names.headD ""))) check

def defaulted (fields : Fields) (names : List String) (default : α) (check : Value → Checked α) : Checked α :=
  part fields names (good default) check

def noOthers (fields : Fields) (names : List String) : Checked Unit :=
  let others := (Entries.keys fields).filter fun key =>
    match key with
    | .text (.whole name) => !names.contains name
    | _ => true
  match others with
  | [] => good ()
  | _ => bad (others.map fun key => ⟨[stepOf key], .unexpected⟩)

end BoxTree.Schema
