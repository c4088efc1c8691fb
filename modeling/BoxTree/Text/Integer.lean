import BoxTree.Text.Blank
import BoxTree.Text.Digit

/-! Whole numbers as people write them: blanks around, a sign, digits of any script, and single
underscores between digits. In base ten a text may not spell more digits than a limit. -/

namespace BoxTree.Text

inductive IntegerFault where
  | malformed
  | tooLong (digits : Nat)
deriving DecidableEq

def digitLimit : Nat := 4300

namespace IntegerFault

/-- The fault of a text with the quoted form `shown`, of which a part from the start is told. -/
def message (base : Nat) (shown : String) : IntegerFault → String
  | malformed =>
    s!"invalid literal for int() with base {base}: " ++ String.ofList (shown.toList.take 200)
  | tooLong digits =>
    s!"Exceeds the limit ({digitLimit} digits) for integer string conversion: value has {digits} digits; " ++
      "use sys.set_int_max_str_digits() to increase the limit"

end IntegerFault

def isOuterBlank (c : Char) : Bool := isAsciiBlank c || (127 < c.toNat && isWideBlank c)

def digitIn? (base : Nat) (c : Char) : Option Nat :=
  (asciiDigit? base c).or ((digitValue? c).filter (· < base))

/-- The digits at the start of a text with single underscores between them, and what follows. There is
nothing if an underscore after a digit has no digit behind it. -/
def digitRun? (base : Nat) : List Char → Option (List Nat × List Char)
  | [] => some ([], [])
  | c :: '_' :: rest =>
    match digitIn? base c, digitRun? base rest with
    | none, _ => some ([], c :: '_' :: rest)
    | some value, some (next :: more, last) => some (value :: next :: more, last)
    | some _, _ => none
  | c :: rest =>
    match digitIn? base c with
    | none => some ([], c :: rest)
    | some value => (digitRun? base rest).map fun (more, last) => (value :: more, last)

def spelled (base : Nat) (digits : List Nat) : Nat :=
  digits.foldl (fun total digit => total * base + digit) 0

def baseMark? : Nat → Option Char
  | 2 => some 'b'
  | 8 => some 'o'
  | 16 => some 'x'
  | _ => none

def afterBaseMark (base : Nat) : List Char → List Char
  | '0' :: mark :: rest => if baseMark? base == some mark.toLower then rest else '0' :: mark :: rest
  | letters => letters

def signed : List Char → Bool × List Char
  | '-' :: rest => (true, rest)
  | '+' :: rest => (false, rest)
  | rest => (false, rest)

/-- The number that a text spells in a base. Too many digits count before what follows them. -/
def integerIn (base : Nat) (letters : List Char) : Except IntegerFault Int :=
  let (negative, unsigned) := signed (letters.dropWhile isOuterBlank)
  match digitRun? base (afterBaseMark base unsigned) with
  | none => .error .malformed
  | some (digits, rest) =>
    if base = 10 && digitLimit < digits.length then .error (.tooLong digits.length)
    else if digits.isEmpty || !rest.all isOuterBlank then .error .malformed
    else .ok (if negative then -(spelled base digits : Int) else spelled base digits)

/-- Bytes as ASCII letters; one above ASCII becomes a letter that spells nothing. -/
def asciiLetters (bytes : List UInt8) : List Char :=
  bytes.map fun byte => if byte < 0x80 then Char.ofNat byte.toNat else '\uFFFD'

def integer (letters : List Char) : Except IntegerFault Int := integerIn 10 letters

end BoxTree.Text
