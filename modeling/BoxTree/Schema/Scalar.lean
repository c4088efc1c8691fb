import BoxTree.Schema.Checked
import BoxTree.Text.Integer
import BoxTree.Value.Basic

/-! Checks of single values. Texts are taken as they are, and only those that must not be empty have to be whole. Truth
and whole numbers are also read from texts and from numbers of other kinds that stand for them. -/

namespace BoxTree.Schema

open Checked

def decoded? (bytes : List UInt8) : Option String := String.fromUTF8? ⟨bytes.toArray⟩

def text : Value → Checked Wording
  | .text content => good content
  | .bytes content =>
    match decoded? content with
    | some content => good content
    | none => fail .undecodable
  | _ => fail (.wrongKind .text)

def nonemptyText (value : Value) : Checked String :=
  (text value).andThen fun content =>
    match content with
    | .broken _ => fail .undecodable
    | .whole content => if content.isEmpty then fail .emptyText else good content

def yesWords : List String := ["1", "on", "t", "true", "y", "yes"]

def noWords : List String := ["0", "off", "f", "false", "n", "no"]

/-- The truth that a word stands for, in upper or lower case. -/
def spokenTruth? (word : String) : Option Bool :=
  let word := word.map Char.toLower
  if yesWords.contains word then some true else if noWords.contains word then some false else none

def fitsWord (number : Int) : Bool := -Int.pow 2 63 ≤ number && number < Int.pow 2 63

/-- Truth as a number; any other small whole number is unclear. -/
def countedTruth (number : Int) : Checked Bool :=
  if number = 0 then good false
  else if number = 1 then good true
  else if fitsWord number then fail .unclearTruth
  else fail (.wrongKind .truth)

/-- The whole number that a double is, if it lies well inside sixty-four bits. -/
def wordOf? (number : Double) : Option Int :=
  number.whole?.filter fun number => number.natAbs < Nat.pow 2 63

def truth : Value → Checked Bool
  | .bool truth => good truth
  | .int number => countedTruth number
  | .double number =>
    match wordOf? number with
    | some number => countedTruth number
    | none => fail (.wrongKind .truth)
  | .text (.whole word) => word? (spokenTruth? word)
  | .text (.broken _) => fail .undecodable
  | .bytes content => word? ((decoded? content).bind spokenTruth?)
  | _ => fail (.wrongKind .truth)
where
  word? : Option Bool → Checked Bool
    | some truth => good truth
    | none => fail .unclearTruth

/-! ### Whole numbers in texts -/

def isNonzeroDigit (c : Char) : Bool := c.isDigit && c != '0'

/-- Whether a text is longer than a number may be, its sign included. -/
def isOverlong (letters : List Char) : Bool := Text.digitLimit < letters.length

/-- A whole number in its usual form: no blanks, no plus sign, no zero before another digit. -/
def usualWhole? (letters : List Char) : Option Int :=
  let (negative, digits) := match letters with | '-' :: rest => (true, rest) | _ => (false, letters)
  let fits := digits == ['0'] || digits.head?.any isNonzeroDigit
  if fits && !isOverlong letters then
    (Text.number? 10 digits).map fun size => if negative then -(size : Int) else size
  else none

def startsOverlong (letters : List Char) : Bool :=
  let (sign, digits) := letters.span (· == '-')
  sign.length < 2 && digits.head?.any isNonzeroDigit && isOverlong (sign ++ digits.takeWhile Char.isDigit)

/-- What follows zeros and underscores, of which `before` is the last. Before a point and at the end that
last letter is kept. -/
def afterZeros (before : Char) : List Char → Option (List Char)
  | [] => some [before]
  | c :: rest =>
    if c == '0' || c == '_' then afterZeros c rest
    else if isNonzeroDigit c || c == '-' then some (c :: rest)
    else if c == '.' then some (before :: c :: rest)
    else none

def withoutZeros? : List Char → Option (List Char)
  | [] => none
  | c :: rest =>
    if c == '0' then afterZeros c rest
    else if isNonzeroDigit c || c == '-' then some (c :: rest)
    else none

def withoutFraction (letters : List Char) : List Char :=
  match letters.span (· != '.') with
  | (before, '.' :: zeros) => if !zeros.isEmpty && zeros.all (· == '0') then before else letters
  | _ => letters

def hasLoneUnderscores (letters : List Char) : Bool :=
  letters.head? != some '_' && letters.getLast? != some '_' && !(letters.zip letters.tail).contains ('_', '_')

def withoutUnderscores (letters : List Char) : List Char :=
  if hasLoneUnderscores letters then letters.filter (· != '_') else letters

def withoutPlus? : List Char → Option (List Char)
  | '+' :: '-' :: _ => none
  | '+' :: rest => some rest
  | letters => some letters

def tidied? (letters : List Char) : Option (List Char) := do
  let unsigned ← withoutPlus? (Text.trimBlanks letters)
  return withoutUnderscores (withoutFraction (← withoutZeros? unsigned))

def spelledWhole (content : String) : Checked Int :=
  let letters := content.toList
  if startsOverlong letters then fail .oversizedWhole
  else
    match (usualWhole? letters).or ((tidied? letters).bind usualWhole?) with
    | some number => good number
    | none => fail .unclearWhole

def whole : Value → Checked Int
  | .int number => good number
  | .bool truth => good (if truth then 1 else 0)
  | .double number =>
    if !number.isFinite then fail .notFinite
    else
      match number.whole? with
      | none => fail .fractional
      | some _ =>
        match wordOf? number with
        | some number => good number
        | none => fail .oversizedWhole
  | .text (.whole content) => spelledWhole content
  | .text (.broken _) => fail .undecodable
  | .bytes content =>
    match decoded? content with
    | some content => spelledWhole content
    | none => fail .unclearWhole
  | _ => fail (.wrongKind .whole)

def wholeBetween (least most : Int) (value : Value) : Checked Int :=
  (whole value).andThen fun number =>
    if number < least then fail (.below least)
    else if most < number then fail (.above most)
    else good number

def option {α : Type} (options : List α) (name : α → String) (value : Value) : Checked α :=
  let found :=
    match text value with
    | good given => options.find? fun candidate => .whole (name candidate) == given
    | bad _ => none
  match found with
  | some candidate => good candidate
  | none => fail (.noOption (options.map name))

def optional {α : Type} (check : Value → Checked α) : Value → Checked (Option α)
  | .null => good none
  | value => some <$> check value

end BoxTree.Schema
