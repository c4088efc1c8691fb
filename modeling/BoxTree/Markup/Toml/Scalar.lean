import BoxTree.Markup.Toml.Stop
import BoxTree.Value.Basic

/-! Single TOML values: texts, numbers, truth and dates. -/

namespace BoxTree.Toml

def isBlank (c : Char) : Bool := c == ' ' || c == '\t'

def skipBlanks (letters : List Char) : List Char := letters.dropWhile isBlank

def isControl (c : Char) : Bool := (c.toNat < 0x20 && c != '\t') || c.toNat == 0x7f

/-- A text over several lines may hold their ends. -/
def isControlInLines (c : Char) : Bool := isControl c && c != '\n'

def verbatim (isBad : Char → Bool) (content rest : List Char) : Except Stop (Parsed (List Char)) :=
  match content.dropWhile (!isBad ·) with
  | [] => .ok (content, rest)
  | c :: after => stop (.invalid c) (c :: after ++ rest)

def skipComment (letters : List Char) : Except Stop (List Char) :=
  match letters with
  | '#' :: rest =>
    let (comment, after) := rest.span (· != '\n')
    (verbatim isControl comment after).map (·.2)
  | _ => .ok letters

def skipSpace : Nat → List Char → Except Stop (List Char)
  | 0, letters => .ok letters
  | fuel + 1, letters => do
    let next ← skipComment (letters.dropWhile fun c => isBlank c || c == '\n')
    if next.length = letters.length then return letters else skipSpace fuel next

/-! ### Texts -/

def simpleEscape? : Char → Option Char
  | 'b' => some '\x08'
  | 't' => some '\t'
  | 'n' => some '\n'
  | 'f' => some '\x0c'
  | 'r' => some '\r'
  | '"' => some '"'
  | '\\' => some '\\'
  | _ => none

def coded (length : Nat) (letters : List Char) : Except Stop (Parsed Char) :=
  let digits := letters.take length
  match Text.number? 16 digits with
  | none => stop .noHexDigits letters
  | some code =>
    let after := letters.drop length
    if digits.length < length then stop .noHexDigits letters
    else if code < 0xd800 || (0xe000 ≤ code && code < 0x110000) then .ok (Char.ofNat code, after)
    else stop .noScalarValue after

def escape : List Char → Except Stop (Parsed Char)
  | 'u' :: rest => coded 4 rest
  | 'U' :: rest => coded 8 rest
  | c :: rest =>
    match simpleEscape? c with
    | some letter => .ok (letter, rest)
    | none => stop .unknownEscape rest
  | [] => stop .unknownEscape []

def basicText : Nat → List Char → Except Stop (Parsed (List Char))
  | 0, letters => stop .openText letters
  | fuel + 1, letters =>
    match letters with
    | [] => stop .openText []
    | '"' :: rest => .ok ([], rest)
    | '\\' :: rest => do
      let (c, after) ← escape rest
      let (more, last) ← basicText fuel after
      return (c :: more, last)
    | c :: rest =>
      if isControl c then stop (.illegal c) (c :: rest)
      else do
        let (more, last) ← basicText fuel rest
        return (c :: more, last)

def literalText (letters : List Char) : Except Stop (Parsed (List Char)) :=
  match letters.span (· != '\'') with
  | (_, []) => stop (.noQuotes "'") []
  | (content, closing) => (verbatim isControl content closing).map fun (content, rest) => (content, rest.drop 1)

def beforeQuotes? (quote : Char) : List Char → Option Nat
  | [] => none
  | c :: rest =>
    if c == quote && rest.take 2 == [quote, quote] then some 0 else (beforeQuotes? quote rest).map (· + 1)

/-- Up to two quotes after the last three of a text, which belong to it. -/
def lastQuotes (quote : Char) (letters : List Char) : List Char := (letters.take 2).takeWhile (· == quote)

def literalLines (letters : List Char) : Except Stop (Parsed (List Char)) := do
  match beforeQuotes? '\'' letters with
  | none => stop (.noQuotes "'''") []
  | some length =>
    let (content, closing) ← verbatim isControlInLines (letters.take length) (letters.drop length)
    let quotes := lastQuotes '\'' (closing.drop 3)
    return (content ++ quotes, closing.drop (3 + quotes.length))

/-- What follows a backslash that takes away the end of its line and the blanks after it. -/
def afterLineEnd (letters : List Char) : Except Stop (List Char) :=
  match skipBlanks letters with
  | [] => .ok []
  | '\n' :: rest => .ok (rest.dropWhile fun c => isBlank c || c == '\n')
  | rest => stop .unknownEscape rest

def basicLines : Nat → List Char → Except Stop (Parsed (List Char))
  | 0, letters => stop .openText letters
  | fuel + 1, letters => do
    let continueWith (content after : List Char) : Except Stop (Parsed (List Char)) := do
      let (more, last) ← basicLines fuel after
      return (content ++ more, last)
    match letters with
    | [] => stop .openText []
    | '"' :: '"' :: '"' :: rest =>
      let quotes := lastQuotes '"' rest
      return (quotes, rest.drop quotes.length)
    | '\\' :: rest =>
      if rest.head?.any isBlank || rest.head? == some '\n' then continueWith [] (← afterLineEnd rest)
      else
        let (letter, after) ← escape rest
        continueWith [letter] after
    | c :: rest =>
      if isControlInLines c then stop (.illegal c) (c :: rest) else continueWith [c] rest

/-- A text; a line end right after three quotes does not count. -/
def readText (letters : List Char) : Except Stop (Parsed String) := do
  let fuel := letters.length + 1
  let afterBreak (rest : List Char) : List Char := if rest.head? == some '\n' then rest.drop 1 else rest
  let (content, rest) ←
    match letters with
    | '"' :: '"' :: '"' :: rest => basicLines fuel (afterBreak rest)
    | '\'' :: '\'' :: '\'' :: rest => literalLines (afterBreak rest)
    | '\'' :: rest => literalText rest
    | _ => basicText fuel (letters.drop 1)
  return (String.ofList content, rest)

/-! ### Numbers and dates -/

def digitRun (base : Nat) : Nat → List Char → List Char × List Char
  | 0, letters => ([], letters)
  | fuel + 1, letters =>
    let isDigit (c : Char) : Bool := (Text.asciiDigit? base c).isSome
    let (digits, after) := letters.span isDigit
    match digits, after with
    | _ :: _, '_' :: c :: rest =>
      if isDigit c then
        let (more, last) := digitRun base fuel (c :: rest)
        (digits ++ more, last)
      else (digits, after)
    | _, _ => (digits, after)

def runOf (base : Nat) (letters : List Char) : List Char × List Char := digitRun base letters.length letters

def numberOf (base : Nat) (digits : List Char) : Nat := (Text.number? base digits).getD 0

def baseOf? : Char → Option Nat
  | 'x' => some 16
  | 'o' => some 8
  | 'b' => some 2
  | _ => none

def fraction (letters : List Char) : List Char × List Char :=
  match letters with
  | '.' :: rest =>
    match runOf 10 rest with
    | ([], _) => ([], letters)
    | found => found
  | _ => ([], letters)

def exponent? (letters : List Char) : Option (Int × List Char) :=
  match letters with
  | mark :: rest =>
    if mark == 'e' || mark == 'E' then
      let (negative, digits) :=
        match rest with
        | '-' :: digits => (true, digits)
        | '+' :: digits => (false, digits)
        | digits => (false, digits)
      match runOf 10 digits with
      | ([], _) => none
      | (run, after) =>
        let size : Int := numberOf 10 run
        some (if negative then -size else size, after)
    else none
  | [] => none

/-- A decimal number after its sign: without a fraction or exponent it is whole. -/
def decimal? (negative : Bool) (letters : List Char) : Except Stop (Option (Value × List Char)) :=
  let (whole, afterWhole) :=
    match letters with
    | '0' :: rest => (['0'], rest)
    | _ => runOf 10 letters
  if whole.isEmpty then .ok none
  else
    let (places, afterPlaces) := fraction afterWhole
    let size := numberOf 10 (whole ++ places)
    match places, exponent? afterPlaces with
    | [], none =>
      if Text.digitLimit < whole.length then .error (.number (.tooLong whole.length))
      else .ok (some (.int (if negative then -size else size), afterPlaces))
    | _, none => .ok (some (.double (.ofDecimal negative size (-places.length)), afterPlaces))
    | _, some (amount, rest) => .ok (some (.double (.ofDecimal negative size (amount - places.length)), rest))

def marked? : List Char → Option (Value × List Char)
  | '0' :: mark :: rest => do
    let base ← baseOf? mark
    match runOf base rest with
    | ([], _) => none
    | (digits, after) => some (.int (numberOf base digits), after)
  | _ => none

def number? (letters : List Char) : Except Stop (Option (Value × List Char)) :=
  match marked? letters with
  | some found => .ok (some found)
  | none =>
    let (negative, unsigned) := Text.signed letters
    decimal? negative unsigned

def specialNumbers : List (String × Double) :=
  [("inf", .infinity false), ("+inf", .infinity false), ("-inf", .infinity true), ("nan", .nan),
    ("+nan", .nan), ("-nan", .nan)]

def special? (letters : List Char) : Option (Value × List Char) :=
  (specialNumbers.find? fun entry => entry.1.toList.isPrefixOf letters).map fun entry =>
    (.double entry.2, letters.drop entry.1.length)

/-- A number of exactly some digits up to a limit. -/
def fixed? (length least most : Nat) (letters : List Char) : Option (Nat × List Char) :=
  let digits := letters.take length
  let number := numberOf 10 digits
  if digits.length = length && digits.all Char.isDigit && least ≤ number && number ≤ most then
    some (number, letters.drop length)
  else none

def after? (c : Char) : List Char → Option (List Char)
  | d :: rest => if c = d then some rest else none
  | [] => none

/-- A time of day: hours, minutes, seconds and millionths. -/
def clock? (letters : List Char) : Option ((Nat × Nat × Nat × Nat) × List Char) := do
  let (hour, afterHour) ← fixed? 2 0 23 letters
  let (minute, afterMinute) ← fixed? 2 0 59 (← after? ':' afterHour)
  let (second, afterSecond) ← fixed? 2 0 59 (← after? ':' afterMinute)
  match afterSecond with
  | '.' :: rest =>
    match rest.span Char.isDigit with
    | ([], _) => return ((hour, minute, second, 0), afterSecond)
    | (digits, last) =>
      return ((hour, minute, second, numberOf 10 ((digits ++ List.replicate 6 '0').take 6)), last)
  | _ => return ((hour, minute, second, 0), afterSecond)

def zone (letters : List Char) : Option Int × List Char :=
  let distance? (sign : Int) (rest : List Char) : Option (Int × List Char) := do
    let (hours, afterHours) ← fixed? 2 0 23 rest
    let (minutes, last) ← fixed? 2 0 59 (← after? ':' afterHours)
    return (sign * (hours * 3600 + minutes * 60), last)
  let found :=
    match letters with
    | 'Z' :: rest | 'z' :: rest => some (0, rest)
    | '+' :: rest => distance? 1 rest
    | '-' :: rest => distance? (-1) rest
    | _ => none
  match found with
  | some (offset, rest) => (some offset, rest)
  | none => (none, letters)

/-- A date, perhaps with a time. The outer option tells whether there is one at all, the inner one
whether its day exists. -/
def date? (letters : List Char) : Option (Option (Value × List Char)) := do
  let (year, afterYear) ← fixed? 4 0 9999 letters
  let (month, afterMonth) ← fixed? 2 1 12 (← after? '-' afterYear)
  let (day, afterDay) ← fixed? 2 1 31 (← after? '-' afterMonth)
  let date : Date := ⟨year, month, day⟩
  let isReal := year != 0 && day ≤ Date.monthLength year month
  let timed :=
    match afterDay with
    | c :: rest => if c == 'T' || c == 't' || c == ' ' then clock? rest else none
    | [] => none
  match timed with
  | some ((hour, minute, second, micros), afterClock) =>
    let (offset, last) := zone afterClock
    return if isReal then some (.moment ⟨date, hour, minute, second, micros, offset⟩, last) else none
  | none => return if isReal then some (.date date, afterDay) else none

def time? (letters : List Char) : Option (Value × List Char) :=
  (clock? letters).map fun ((hour, minute, second, micros), rest) =>
    (.moment ⟨⟨1, 1, 1⟩, hour, minute, second, micros, none⟩, rest)

def readScalar (letters : List Char) : Except Stop (Parsed Value) := do
  match date? letters with
  | some (some found) => return found
  | some none => stop .noDate letters
  | none =>
    if let some found := time? letters then return found
    match (← number? letters).or (special? letters) with
    | some found => return found
    | none => stop .noValue letters

end BoxTree.Toml
