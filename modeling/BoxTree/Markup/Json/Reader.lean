import BoxTree.Text.Integer
import BoxTree.Text.Position
import BoxTree.Value.Basic

/-! Strict JSON documents. Besides the standard, the numbers `NaN`, `Infinity` and `-Infinity` are read,
and of the members with one name the last counts. -/

namespace BoxTree.Json

inductive Cause where
  | value
  | memberName
  | colon
  | comma
  | end_
  | closingQuote
  | controlFree
  | escape
  | unicodeEscape
  | noByteOrderMark

namespace Cause

def text : Cause → String
  | value => "Expecting value"
  | memberName => "Expecting property name enclosed in double quotes"
  | colon => "Expecting ':' delimiter"
  | comma => "Expecting ',' delimiter"
  | end_ => "Extra data"
  | closingQuote => "Unterminated string starting at"
  | controlFree => "Invalid control character at"
  | escape => "Invalid \\escape"
  | unicodeEscape => "Invalid \\uXXXX escape"
  | noByteOrderMark => "Unexpected UTF-8 BOM (decode using utf-8-sig)"

end Cause

inductive Error where
  /-- A cause and the number of letters before it, with the line and the column. -/
  | misplaced (cause : Cause) (line column place : Nat)
  | number (fault : Text.IntegerFault)

def Error.message : Error → String
  | misplaced cause line column place => s!"{cause.text}: line {line} column {column} (char {place})"
  | number fault => fault.message 10 ""

inductive Stop where
  /-- A cause and the number of letters from it to the end. -/
  | misplaced (cause : Cause) (left : Nat)
  | number (fault : Text.IntegerFault)

def stop {α : Type} (cause : Cause) (rest : List Char) : Except Stop α :=
  .error (.misplaced cause rest.length)

def isBlank (c : Char) : Bool := c == ' ' || c == '\t' || c == '\n' || c == '\r'

def skipBlanks (letters : List Char) : List Char := letters.dropWhile isBlank

/-- The letter that a one-letter escape stands for. -/
def simpleEscape? : Char → Option Char
  | '"' => some '"'
  | '\\' => some '\\'
  | '/' => some '/'
  | 'b' => some '\x08'
  | 'f' => some '\x0c'
  | 'n' => some '\n'
  | 'r' => some '\r'
  | 't' => some '\t'
  | _ => none

def unit? : List Char → Option (Nat × List Char)
  | a :: b :: c :: d :: next :: rest => (Text.number? 16 [a, b, c, d]).map (·, next :: rest)
  | _ => none

/-- Two units that together stand for a letter above the basic plane. -/
def joinUnits? (high low : Nat) : Option Nat :=
  if 0xd800 ≤ high && high < 0xdc00 && 0xdc00 ≤ low && low < 0xe000 then
    some (0x10000 + (high - 0xd800) * 0x400 + (low - 0xdc00))
  else none

/-- The letter of a unit escape after its `u`, with the second half of a pair if there is one. -/
def unitLetter? (letters : List Char) : Option (Letter × List Char) := do
  let (high, rest) ← unit? letters
  let single := (Letter.ofCode high, rest)
  match rest with
  | '\\' :: 'u' :: more =>
    match unit? more with
    | some (low, after) =>
      match joinUnits? high low with
      | some code => some (Letter.ofCode code, after)
      | none => some single
    | none => some single
  | _ => some single

/-- The letters of a text after its opening quote, where `start` begins. -/
def readText (start : List Char) : Nat → List Letter → List Char → Except Stop (Wording × List Char)
  | 0, _, _ => stop .closingQuote start
  | _, _, [] => stop .closingQuote start
  | _ + 1, done, '"' :: rest => .ok (.ofLetters done.reverse, rest)
  | _ + 1, _, ['\\'] => stop .closingQuote start
  | fuel + 1, done, '\\' :: 'u' :: rest =>
    match unitLetter? rest with
    | some (letter, after) => readText start fuel (letter :: done) after
    | none => stop .unicodeEscape ('u' :: rest)
  | fuel + 1, done, '\\' :: c :: rest =>
    match simpleEscape? c with
    | some letter => readText start fuel (.char letter :: done) rest
    | none => stop .escape ('\\' :: c :: rest)
  | fuel + 1, done, c :: rest =>
    if c.toNat < 0x20 then stop .controlFree (c :: rest)
    else readText start fuel (.char c :: done) rest

def digitsOf (letters : List Char) : List Char × List Char := letters.span Char.isDigit

def fractionDigits (letters : List Char) : List Char × List Char :=
  match letters with
  | '.' :: c :: rest => if c.isDigit then digitsOf (c :: rest) else ([], letters)
  | _ => ([], letters)

def exponent? (letters : List Char) : Option (Int × List Char) :=
  let amount? (negative : Bool) (rest : List Char) : Option (Int × List Char) :=
    match digitsOf rest with
    | ([], _) => none
    | (digits, after) =>
      let size : Int := (Text.number? 10 digits).getD 0
      some (if negative then -size else size, after)
  match letters with
  | mark :: '-' :: rest => if mark == 'e' || mark == 'E' then amount? true rest else none
  | mark :: '+' :: rest => if mark == 'e' || mark == 'E' then amount? false rest else none
  | mark :: rest => if mark == 'e' || mark == 'E' then amount? false rest else none
  | [] => none

/-- A number whose sign has been taken off, if `letters` begin with one. -/
def readNumber (negative : Bool) (letters : List Char) : Except Stop (Option (Value × List Char)) :=
  let whole :=
    match letters with
    | '0' :: rest => (['0'], rest)
    | _ => digitsOf letters
  match whole with
  | ([], _) => .ok none
  | (digits, afterWhole) =>
    let (decimals, afterFraction) := fractionDigits afterWhole
    let size := (Text.number? 10 (digits ++ decimals)).getD 0
    match decimals, exponent? afterFraction with
    | [], none =>
      if Text.digitLimit < digits.length then .error (.number (.tooLong digits.length))
      else .ok (some (.int (if negative then -size else size), afterFraction))
    | _, none => .ok (some (.double (.ofDecimal negative size (-decimals.length)), afterFraction))
    | _, some (amount, rest) => .ok (some (.double (.ofDecimal negative size (amount - decimals.length)), rest))

def words : List (String × Value) :=
  [("null", .null), ("true", .bool true), ("false", .bool false), ("NaN", .double .nan),
    ("Infinity", .double (.infinity false)), ("-Infinity", .double (.infinity true))]

def word? (letters : List Char) : Option (Value × List Char) :=
  (words.find? fun word => word.1.toList.isPrefixOf letters).map fun word =>
    (word.2, letters.drop word.1.length)

def readScalar (letters : List Char) : Except Stop (Value × List Char) :=
  match word? letters with
  | some found => .ok found
  | none => do
    let (negative, unsigned) := match letters with | '-' :: rest => (true, rest) | _ => (false, letters)
    match ← readNumber negative unsigned with
    | some found => return found
    | none => stop .value letters

mutual
def readValue : Nat → List Char → Except Stop (Value × List Char)
  | 0, letters => stop .value letters
  | fuel + 1, letters =>
    match letters with
    | '"' :: rest => do
      let (content, after) ← readText letters (fuel + 1) [] rest
      return (.text content, after)
    | '[' :: rest =>
      match skipBlanks rest with
      | ']' :: after => .ok (.list [], after)
      | inside => do
        let (items, after) ← readItems fuel inside
        return (.list items, after)
    | '{' :: rest =>
      match skipBlanks rest with
      | '}' :: after => .ok (.map [], after)
      | inside => do
        let (members, after) ← readMembers fuel [] inside
        return (.map members, after)
    | _ => readScalar letters

def readItems : Nat → List Char → Except Stop (List Value × List Char)
  | 0, letters => stop .value letters
  | fuel + 1, letters => do
    let (item, after) ← readValue fuel letters
    match skipBlanks after with
    | ']' :: rest => return ([item], rest)
    | ',' :: rest =>
      let (items, last) ← readItems fuel (skipBlanks rest)
      return (item :: items, last)
    | rest => stop .comma rest

def readMembers : Nat → Fields → List Char → Except Stop (Fields × List Char)
  | 0, _, letters => stop .value letters
  | fuel + 1, members, letters =>
    match letters with
    | '"' :: rest => do
      let (name, afterName) ← readText letters (fuel + 1) [] rest
      match skipBlanks afterName with
      | ':' :: rest =>
        let (value, after) ← readValue fuel (skipBlanks rest)
        let members := members.put (.text name) value
        match skipBlanks after with
        | '}' :: rest => return (members, rest)
        | ',' :: rest => readMembers fuel members (skipBlanks rest)
        | rest => stop .comma rest
      | rest => stop .colon rest
    | _ => stop .memberName letters
end

/-- Every letter opens at most one value and one list of parts. -/
def readDocument (letters : List Char) : Except Stop Value := do
  if letters.head? == some '\uFEFF' then stop .noByteOrderMark letters
  let (value, after) ← readValue (2 * letters.length + 2) (skipBlanks letters)
  match skipBlanks after with
  | [] => return value
  | rest => stop .end_ rest

def read (document : String) : Except Error Value :=
  let letters := document.toList
  match readDocument letters with
  | .ok value => .ok value
  | .error (.number fault) => .error (.number fault)
  | .error (.misplaced cause left) =>
    let place := letters.length - left
    let (line, column) := Text.lineAndColumn (letters.take place)
    .error (.misplaced cause line column place)

def objectsFrom : Nat → List Char → List Value
  | 0, _ | _, [] => []
  | fuel + 1, '{' :: rest =>
    match readValue (2 * rest.length + 4) ('{' :: rest) with
    | .ok (object, after) => object :: objectsFrom fuel after
    | .error _ => objectsFrom fuel rest
  | fuel + 1, _ :: rest => objectsFrom fuel rest

def objectsIn (text : String) : List Value := objectsFrom text.length text.toList

end BoxTree.Json
