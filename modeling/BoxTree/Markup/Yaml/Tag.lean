import BoxTree.Markup.Yaml.Edition
import BoxTree.Text.Wording

/-! Tags of YAML nodes, and the tag of a plain scalar, which follows from its text: words for truth and
nothing, whole numbers in several bases, numbers with a point, dates. -/

namespace BoxTree.Yaml

inductive Tag where
  | null
  | truth
  | whole
  | fraction
  | text
  | bytes
  | time
  | sequence
  | mapping
  | set
  | orderedMap
  | pairs
  | merge
  | default
  | unknown
deriving DecidableEq

namespace Tag

def start : String := "tag:yaml.org,2002:"

def names : List (String × Tag) :=
  [("null", null), ("bool", truth), ("int", whole), ("float", fraction), ("str", text),
    ("binary", bytes), ("timestamp", time), ("seq", sequence), ("map", mapping), ("set", set),
    ("omap", orderedMap), ("pairs", pairs), ("merge", merge), ("value", default)]

def ofName (name : String) : Tag :=
  match names.find? fun entry => start ++ entry.1 == name with
  | some (_, tag) => tag
  | none => unknown

end Tag

/-! ### Shapes of plain scalars -/

namespace Plain

def withoutLineEnd (letters : List Char) : List Char :=
  if letters.length != 1 && letters.getLast? == some '\n' then letters.dropLast else letters

def inThreeCases (word : String) : List (List Char) :=
  [word.toList, word.capitalize.toList, (word.map Char.toUpper).toList]

def truthWords : Edition → List (List Char)
  | .first => ["yes", "no", "true", "false", "on", "off"].flatMap inThreeCases
  | .eased => ["y", "n", "yes", "no", "true", "false", "on", "off"].flatMap inThreeCases
  | .second => ["true", "false"].flatMap inThreeCases

def nullWords : List (List Char) := [[], ['~']] ++ inThreeCases "null"

def isSign (c : Char) : Bool := c == '+' || c == '-'

def unsigned : List Char → List Char
  | [] => []
  | c :: rest => if isSign c then rest else c :: rest

def isGroupedDigit (c : Char) : Bool := c.isDigit || c == '_'

def isGroupedNumber : List Char → Bool
  | [] => false
  | c :: rest => c.isDigit && rest.all isGroupedDigit

def isSixtieth : List Char → Bool
  | [c] => c.isDigit
  | [c, d] => c.isDigit && c.toNat < 0x36 && d.isDigit
  | _ => false

def colonParts (letters : List Char) : List (List Char) := letters.splitOn ':'

def isSexagesimal (parts : List (List Char)) : Bool :=
  match parts with
  | first :: second :: more => isGroupedNumber first && (second :: more).all isSixtieth
  | _ => false

def isOctal (digits : List Char) : Bool :=
  digits.all fun c => (Text.asciiDigit? 8 c).isSome || c == '_'

def isUnmarkedWhole (edition : Edition) (digits : List Char) : Bool :=
  match edition with
  | .first => isGroupedNumber digits || isSexagesimal (colonParts digits)
  | .eased => isGroupedNumber digits || isSexagesimal (colonParts digits) || (!digits.isEmpty && isOctal digits)
  | .second => !digits.isEmpty && digits.all isGroupedDigit

def isWhole (edition : Edition) (letters : List Char) : Bool :=
  match unsigned letters with
  | '0' :: 'b' :: digits => !digits.isEmpty && digits.all fun c => c == '0' || c == '1' || c == '_'
  | '0' :: 'x' :: digits => !digits.isEmpty && digits.all fun c => (Text.asciiDigit? 16 c).isSome || c == '_'
  | ['0'] => true
  | '0' :: 'o' :: digits => edition == .second && !digits.isEmpty && isOctal digits
  | '0' :: digits => isOctal digits || (edition == .second && digits.all isGroupedDigit)
  | digits => letters.head?.any (fun c => isSign c || c.isDigit) && isUnmarkedWhole edition digits

def isExponent (edition : Edition) : List Char → Bool
  | mark :: rest =>
    let digits := unsigned rest
    (mark == 'e' || mark == 'E') && (edition != .first || digits.length != rest.length)
      && !digits.isEmpty && digits.all Char.isDigit
  | [] => false

def isExponentOrNothing (edition : Edition) (letters : List Char) : Bool :=
  letters.isEmpty || isExponent edition letters

def isInfinity (letters : List Char) : Bool :=
  [".inf", ".Inf", ".INF"].any fun word => word.toList == letters

def isUndefined (letters : List Char) : Bool :=
  [".nan", ".NaN", ".NAN"].any fun word => word.toList == letters

/-- A number that begins with its point. Only by the second rules it may have a sign. -/
def startsAtPoint (edition : Edition) (signed : Bool) (places exponent : List Char) : Bool :=
  match edition with
  | .first => !signed && isGroupedNumber places && isExponentOrNothing edition exponent
  | .eased => !signed && !places.isEmpty && isExponentOrNothing .first exponent
  | .second => !places.isEmpty && isExponentOrNothing .first exponent

def isFraction (edition : Edition) (letters : List Char) : Bool :=
  let digits := unsigned letters
  let (before, fromPoint) := digits.span (· != '.')
  match fromPoint with
  | [] =>
    let (whole, exponent) := digits.span isGroupedDigit
    edition != .first && isGroupedNumber whole && isExponent edition exponent
  | _ :: afterPoint =>
    let (places, exponent) := afterPoint.span isGroupedDigit
    isInfinity digits || isUndefined letters
      || (isGroupedNumber before && isExponentOrNothing edition exponent)
      || (before.isEmpty && startsAtPoint edition (letters.length != digits.length) places exponent)
      || (edition.isEarly && isSexagesimal (colonParts before) && exponent.isEmpty)

end Plain

/-! ### Dates -/

/-- The parts of a date and time as they are written; the clock is left out of a bare date. -/
structure WrittenClock where
  hour : List Char
  minute : List Char
  second : List Char
  fraction : List Char
  /-- The sign, hours and minutes of a zone, or nothing for universal time. -/
  zone : Option (Option (Char × List Char × List Char))

structure WrittenTime where
  year : List Char
  month : List Char
  day : List Char
  clock : Option WrittenClock

namespace WrittenTime

def digits? (least most : Nat) (letters : List Char) : Option (List Char × List Char) :=
  let taken := (letters.take most).takeWhile Char.isDigit
  if least ≤ taken.length then some (taken, letters.drop taken.length) else none

def expect? (c : Char) (letters : List Char) : Option (List Char) :=
  match letters with
  | d :: rest => if c = d then some rest else none
  | [] => none

def skipBlanks (letters : List Char) : List Char := letters.dropWhile fun c => c == ' ' || c == '\t'

def zone? (letters : List Char) : Option (Option (Option (Char × List Char × List Char))) :=
  match letters, skipBlanks letters with
  | [], _ => some none
  | _, ['Z'] => some (some none)
  | _, sign :: rest =>
    if Plain.isSign sign then do
      let (hours, after) ← digits? 1 2 rest
      match after with
      | [] => return some (some (sign, hours, []))
      | _ =>
        let (minutes, last) ← digits? 2 2 (← expect? ':' after)
        if last.isEmpty then return some (some (sign, hours, minutes)) else none
    else none
  | _, [] => none

def clock? (letters : List Char) : Option WrittenClock := do
  let (hour, afterHour) ← digits? 1 2 letters
  let (minute, afterMinute) ← digits? 2 2 (← expect? ':' afterHour)
  let (second, afterSecond) ← digits? 2 2 (← expect? ':' afterMinute)
  let (fraction, last) :=
    match afterSecond with
    | '.' :: rest => rest.span Char.isDigit
    | rest => ([], rest)
  return ⟨hour, minute, second, fraction, ← zone? last⟩

/-- A date, and perhaps a time after a `T` or blanks. -/
def read? (letters : List Char) : Option WrittenTime := do
  let (year, afterYear) ← digits? 4 4 letters
  let (month, afterMonth) ← digits? 1 2 (← expect? '-' afterYear)
  let (day, afterDay) ← digits? 1 2 (← expect? '-' afterMonth)
  match afterDay with
  | [] => return ⟨year, month, day, none⟩
  | c :: rest =>
    if c == 'T' || c == 't' then return ⟨year, month, day, some (← clock? rest)⟩
    else if c == ' ' || c == '\t' then return ⟨year, month, day, some (← clock? (skipBlanks rest))⟩
    else none

/-- Whether a plain scalar of this text is a date: one without a time has two digits in every place. -/
def isPlain (letters : List Char) : Bool :=
  match read? letters with
  | none => false
  | some written => written.clock.isSome || letters.length == 10

end WrittenTime

namespace Tag

/-- The tag that a scalar has by its text; a line end after it does not count. -/
def ofPlain (edition : Edition) (content : Wording) : Tag :=
  let letters := Plain.withoutLineEnd content.standIns
  if (Plain.truthWords edition).contains letters then truth
  else if Plain.isFraction edition letters then fraction
  else if Plain.isWhole edition letters then whole
  else if letters == ['<', '<'] then merge
  else if Plain.nullWords.contains letters then null
  else if WrittenTime.isPlain letters then time
  else if letters == ['='] then default
  else text

end Tag
end BoxTree.Yaml
