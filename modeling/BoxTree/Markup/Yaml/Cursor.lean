import BoxTree.Markup.Yaml.Edition
import BoxTree.Text.Wording

/-! A place in a YAML text: the letters to come, how many have passed, and the line and column. -/

namespace BoxTree.Yaml

inductive ReadError where
  | malformed
  | badScalar (reason : String)
  | unknownTruth (word : Wording)
  | emptyNumber
  | noDate
  | oversizedCode
  | outOfCalendar
  /-- A key whose value may change, by the name of its kind. -/
  | changingKey (kind : String)
  | repeatedKey
  /-- A scalar that stands for itself. -/
  | endless
deriving DecidableEq

def isLineEnd (c : Char) : Bool :=
  c == '\n' || c == '\r' || c == '\x85' || c == '\u2028' || c == '\u2029'

def Rules.isLineEnd (rules : Rules) (c : Char) : Bool :=
  Yaml.isLineEnd c && !(rules.isTolerant && (c == '\u2028' || c == '\u2029'))

def byteOrderMark : Char := '\uFEFF'

structure Cursor where
  rest : List Char
  passed : Nat
  line : Nat
  column : Nat

namespace Cursor

def ofText (letters : List Char) : Cursor := ⟨letters, 0, 0, 0⟩

def peek (cursor : Cursor) : Option Char := cursor.rest.head?

def peekAt (cursor : Cursor) (distance : Nat) : Option Char := cursor.rest[distance]?

/-- Pass one letter. A carriage return before a line feed does not end the line. -/
def next (cursor : Cursor) : Cursor :=
  match cursor.rest with
  | [] => cursor
  | c :: rest =>
    let ends := isLineEnd c && !(c == '\r' && rest.head? == some '\n')
    if ends then ⟨rest, cursor.passed + 1, cursor.line + 1, 0⟩
    else if c == byteOrderMark then ⟨rest, cursor.passed + 1, cursor.line, cursor.column⟩
    else ⟨rest, cursor.passed + 1, cursor.line, cursor.column + 1⟩

def skip : Nat → Cursor → Cursor
  | 0, cursor => cursor
  | count + 1, cursor => skip count cursor.next

/-- The letters up to the first that fails a test, and the place after them. -/
def takeWhile (test : Char → Bool) (cursor : Cursor) : List Char × Cursor :=
  let taken := cursor.rest.takeWhile test
  (taken, cursor.skip taken.length)

def skipWhile (test : Char → Bool) (cursor : Cursor) : Cursor := (cursor.takeWhile test).2

def skipSpaces (cursor : Cursor) : Cursor := cursor.skipWhile (· == ' ')

def indentTo (limit : Nat) (cursor : Cursor) : Cursor :=
  let spaces := (cursor.rest.takeWhile (· == ' ')).length
  cursor.skip (min spaces (limit - cursor.column))

/-- A line end, as the letter that it stands for. -/
def lineEnd? (cursor : Cursor) : Option (Char × Cursor) :=
  match cursor.rest with
  | '\r' :: '\n' :: _ => some ('\n', cursor.skip 2)
  | c :: _ =>
    if c == '\u2028' || c == '\u2029' then some (c, cursor.next)
    else if isLineEnd c then some ('\n', cursor.next)
    else none
  | [] => none

def startsWith (cursor : Cursor) (word : String) : Bool := word.toList.isPrefixOf cursor.rest

end Cursor

def endsLine : Option Char → Bool
  | none => true
  | some c => isLineEnd c

def endsWord (letter : Option Char) : Bool := letter == some ' ' || endsLine letter

def endsToken (letter : Option Char) : Bool := letter == some '\t' || endsWord letter

/-- Whether a document begins or ends at this place: `---` or `...` by itself. -/
def isDocumentMark (cursor : Cursor) : Bool :=
  (cursor.startsWith "---" || cursor.startsWith "...") && endsToken (cursor.peekAt 3)

/-- Spaces, a comment and the end of the line, with nothing else in between. -/
def restOfLine (rules : Rules) (cursor : Cursor) : Except ReadError Cursor :=
  let afterSpaces := cursor.skipSpaces
  let after :=
    if afterSpaces.peek == some '#' then afterSpaces.skipWhile (!rules.isLineEnd ·) else afterSpaces
  if endsLine after.peek then .ok ((after.lineEnd?.map (·.2)).getD after) else .error .malformed

end BoxTree.Yaml
