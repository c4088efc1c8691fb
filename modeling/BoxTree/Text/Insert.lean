import BoxTree.Number.Places
import BoxTree.Text.Field
import BoxTree.Text.Integer
import BoxTree.Value.Show

/-! Values inserted into a text at its percent marks. A mark may name its value, and say how wide and how exactly
it is written; the last letter of a mark is the way to write it. -/

namespace BoxTree.Text

inductive InsertFault where
  | tooFew
  | tooMany
  | noNames
  | noName (name : String)
  | openName
  | openMark
  | noAmount
  | tooWide
  | tooExact
  | hugeAmount (kind : String)
  | noRoom
  | noWhole (letter : Char) (kind : String)
  | noNumber (letter : Char) (kind : String)
  | noDouble (kind : String)
  | endless (isNaN : Bool)
  | tooLarge
  | noLetter
  | outsideLetters
  | unknown (letter : Char) (place : Nat)

namespace InsertFault

def message : InsertFault → String
  | tooFew => "not enough arguments for format string"
  | tooMany => "not all arguments converted during string formatting"
  | noNames => "format requires a mapping"
  | noName name => name
  | openName => "incomplete format key"
  | openMark => "incomplete format"
  | noAmount => "* wants int"
  | tooWide => "width too big"
  | tooExact => "precision too big"
  | hugeAmount kind => s!"Python int too large to convert to C {kind}"
  | noRoom => ""
  | noWhole letter kind => s!"%{letter} format: an integer is required, not {kind}"
  | noNumber letter kind => s!"%{letter} format: a real number is required, not {kind}"
  | noDouble kind => s!"must be real number, not {kind}"
  | endless isNaN => if isNaN then "cannot convert float NaN to integer" else "cannot convert float infinity to integer"
  | tooLarge => "int too large to convert to float"
  | noLetter => "%c requires int or char"
  | outsideLetters => "%c arg not in range(0x110000)"
  | unknown letter place =>
    let shown := if 31 ≤ letter.toNat && letter.toNat ≤ 126 then letter else '?'
    let code := String.ofList (Nat.toDigits 16 letter.toNat)
    s!"unsupported format character '{shown}' (0x{code}) at index {place}"

end InsertFault

structure Mark where
  isLeft : Bool := false
  isSigned : Bool := false
  /-- Whether such a number has a blank in the place of the sign. -/
  isSpaced : Bool := false
  isPlain : Bool := true
  isFilled : Bool := false
  width : Nat := 0
  places : Option Nat := none

/-- The values that are left, and their names if they have any. -/
structure Given where
  next : List Value
  named : Option Fields := none

namespace Given

/-- Values in a row. A single mapping gives its values by their names. -/
def ofValues : List Value → Given
  | [.map (entry :: rest)] => ⟨[.map (entry :: rest)], some (entry :: rest)⟩
  | values => ⟨values, none⟩

def take (given : Given) : Except InsertFault (Value × Given) :=
  match given.next with
  | [] => .error .tooFew
  | value :: rest => .ok (value, { given with next := rest })

def choose (given : Given) (name : String) : Except InsertFault Given :=
  match given.named with
  | none => .error .noNames
  | some fields => (fields.getText? name).elim (.error (.noName name)) fun value => .ok { given with next := [value] }

end Given

/-- A number as it is written: its sign, what shows its base, and its digits. -/
structure Written where
  sign : List Char := []
  base : List Char := []
  letters : List Char

namespace Mark

def flags (mark : Mark) : List Char → Mark × List Char
  | '-' :: rest => flags { mark with isLeft := true } rest
  | '+' :: rest => flags { mark with isSigned := true } rest
  | ' ' :: rest => flags { mark with isSpaced := true } rest
  | '#' :: rest => flags { mark with isPlain := false } rest
  | '0' :: rest => flags { mark with isFilled := true } rest
  | letters => (mark, letters)

def sign (mark : Mark) (isNegative : Bool) : List Char :=
  if isNegative then ['-'] else if mark.isSigned then ['+'] else if mark.isSpaced then [' '] else []

def filled (mark : Mark) (number : Written) : List Char :=
  let start := number.sign ++ number.base
  let rest := mark.width - start.length - number.letters.length
  if mark.isLeft then start ++ number.letters ++ List.replicate rest ' '
  else if mark.isFilled then start ++ List.replicate rest '0' ++ number.letters
  else List.replicate rest ' ' ++ start ++ number.letters

def padded (mark : Mark) (letters : List Char) : List Char :=
  { mark with isFilled := false }.filled { letters }

def cut (mark : Mark) (content : String) : List Char :=
  mark.padded (mark.places.elim content.toList content.toList.take)

def bases : List (Char × Nat) := [('d', 10), ('i', 10), ('u', 10), ('o', 8), ('x', 16), ('X', 16)]

def styles : List (Char × Style) := [('e', .scientific), ('f', .fixed), ('g', .general)]

def whole (mark : Mark) (letter : Char) (base : Nat) (number : Int) : List Char :=
  let digits := Nat.toDigits base number.natAbs
  let digits := List.replicate (mark.places.getD 1 - digits.length) '0' ++ digits
  let digits := if letter == 'X' then digits.map Char.toUpper else digits
  mark.filled ⟨mark.sign (number < 0), if mark.isPlain || base == 10 then [] else ['0', letter], digits⟩

/-- The whole number that a value stands for at a mark. -/
def wholeOf (letter : Char) (base : Nat) : Value → Except InsertFault Int
  | .int number => .ok number
  | .bool truth => .ok (if truth then 1 else 0)
  | .double number =>
    if base ≠ 10 then .error (.noWhole letter (Value.double number).kindName)
    else if number.isFinite then .ok number.truncate
    else .error (.endless number.isNaN)
  | value => .error (if base = 10 then .noNumber letter value.kindName else .noWhole letter value.kindName)

def doubleOf : Value → Except InsertFault Double
  | .double number => .ok number
  | .int number => let near := Double.ofInt number; if near.isFinite then .ok near else .error .tooLarge
  | .bool truth => .ok (.ofInt (if truth then 1 else 0))
  | value => .error (.noDouble value.kindName)

def letterOf : Value → Except InsertFault Char
  | .int code => if 0 ≤ code && code < 0x110000 then .ok (Letter.ofCode code.toNat).standIn else .error .outsideLetters
  | .bool truth => .ok (Char.ofNat (if truth then 1 else 0))
  | .text content =>
    match content.standIns with
    | [letter] => .ok letter
    | _ => .error .noLetter
  | _ => .error .noLetter

def shown (mark : Mark) (letter : Char) (place : Nat) (value : Value) : Except InsertFault (List Char) :=
  if letter == 's' then .ok (mark.cut value.plain.displayed)
  else if letter == 'r' then .ok (mark.cut value.shown)
  else if letter == 'a' then .ok (mark.cut (asciiShown value.shown))
  else if letter == 'c' then (fun c => mark.padded [c]) <$> letterOf value
  else
    match bases.lookup letter, styles.lookup letter.toLower with
    | some base, _ => mark.whole letter base <$> wholeOf letter base value
    | none, some style => do
      let number ← doubleOf value
      let size := number.sized style (mark.places.getD 6) !mark.isPlain
      let size := if letter.isUpper then size.map Char.toUpper else size
      return mark.filled ⟨mark.sign (number.isNegative && !number.isNaN), [], size⟩
    | none, none => .error (.unknown letter place)

structure Bound where
  limit : Nat
  kind : String
  fault : InsertFault

def Bound.ofWidth : Bound := ⟨Nat.pow 2 63 - 1, "ssize_t", .tooWide⟩

def Bound.ofPlaces : Bound := ⟨Nat.pow 2 31 - 1, "int", .tooExact⟩

def amount (bound : Bound) (given : Given) : List Char → Except InsertFault (Int × Given × List Char)
  | '*' :: rest => do
    match ← given.take with
    | (.int amount, given) =>
      if -(bound.limit : Int) - 1 ≤ amount && amount ≤ bound.limit then return (amount, given, rest)
      else throw (.hugeAmount bound.kind)
    | (.bool truth, given) => return (if truth then 1 else 0, given, rest)
    | _ => throw .noAmount
  | letters =>
    let (digits, rest) := letters.span Char.isDigit
    let amount := (number? 10 digits).getD 0
    if bound.limit < amount then .error bound.fault else .ok (amount, given, rest)

def nameOf : Nat → List Char → Option (List Char × List Char)
  | _, [] => none
  | 0, ')' :: rest => some ([], rest)
  | depth + 1, ')' :: rest => (nameOf depth rest).map fun (name, last) => (')' :: name, last)
  | depth, '(' :: rest => (nameOf (depth + 1) rest).map fun (name, last) => ('(' :: name, last)
  | depth, c :: rest => (nameOf depth rest).map fun (name, last) => (c :: name, last)

/-- The value of the mark at the start of a text of some size, after its percent sign; and what is left. -/
def insert (size : Nat) (given : Given) (letters : List Char) :
    Except InsertFault (List Char × Given × List Char) := do
  let (given, letters) ←
    match letters with
    | '(' :: rest =>
      if given.named.isNone then throw .noNames
      match nameOf 0 rest with
      | some (name, rest) => pure (← given.choose (String.ofList name), rest)
      | none => throw .openName
    | letters => pure (given, letters)
  let (mark, letters) := ({ } : Mark).flags letters
  let (width, given, letters) ← amount .ofWidth given letters
  let mark := { mark with width := width.natAbs, isLeft := mark.isLeft || width < 0 }
  let (places, given, letters) ←
    match letters with
    | '.' :: rest => do
      let (places, given, rest) ← amount .ofPlaces given rest
      pure (some places.toNat, given, rest)
    | letters => pure (none, given, letters)
  let letters := match letters with
    | c :: rest => if ['h', 'l', 'L'].contains c then rest else c :: rest
    | [] => []
  match letters with
  | [] => throw .openMark
  | letter :: rest =>
    let (value, given) ← given.take
    let isRoomy := mark.width ≤ Field.room
    let mark := { mark with places, width := if isRoomy then mark.width else 0 }
    let shown ← mark.shown letter (size - rest.length - 1) value
    if isRoomy then return (shown, given, rest) else throw .noRoom

end Mark

/-- Letters with the values of their marks. Every value has to be taken, unless values have names. -/
def insertInto (size : Nat) : Nat → Given → List Char → Except InsertFault (List Char)
  | 0, _, _ => .ok []
  | _ + 1, given, [] => if given.named.isNone && !given.next.isEmpty then .error .tooMany else .ok []
  | fuel + 1, given, '%' :: '%' :: rest => ('%' :: ·) <$> insertInto size fuel given rest
  | fuel + 1, given, '%' :: rest => do
    let (shown, given, rest) ← Mark.insert size given rest
    return shown ++ (← insertInto size fuel given rest)
  | fuel + 1, given, c :: rest => (c :: ·) <$> insertInto size fuel given rest

/-- A text with values inserted; without values its percent signs stand for themselves. -/
def insertValues (text : String) (values : List Value) : Except InsertFault String :=
  if values.isEmpty then .ok text
  else String.ofList <$> insertInto text.length (text.length + 1) (.ofValues values) text.toList

end BoxTree.Text
