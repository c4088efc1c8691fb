import BoxTree.Number.Layout
import BoxTree.Number.Places
import BoxTree.Text.Digit
import BoxTree.Value.Show

/-! Values written into fields. A field says how wide it is, where the value stands in it and what fills the rest,
and how a number is written. -/

namespace BoxTree.Text

inductive Side where
  | left
  | right
  | middle
  /-- To the right of what fills the field, but its sign to the left of that. -/
  | inner
deriving DecidableEq

structure Field where
  fill : Char := ' '
  side : Option Side := none
  /-- The sign of a number that is not negative: a plus, a blank, or a minus for none. -/
  sign : Option Char := none
  isUnsignedZero : Bool := false
  /-- Whether the base of a number or its decimal point is shown in any case. -/
  isPlain : Bool := true
  width : Nat := 0
  separator : Option Char := none
  places : Option Nat := none
  letter : Option Char := none

inductive FieldFault where
  | malformed (layout kind : String)
  | tooManyDigits
  | noPlaces
  | bothSeparators
  | separatorWith (separator letter : Char)
  | unknown (letter : Char) (kind : String)
  | refused (what values : String)
  | noLayout (kind : String)
  | outsideLetters
  | hugeLetter
  | tooLarge
  | noRoom

namespace FieldFault

/-- A letter in a message, by its code if it is not an ASCII letter with a printed form. -/
def letterShown (letter : Char) : String :=
  String.ofList <|
    if 0x20 < letter.toNat && letter.toNat < 0x7f then [letter] else ['\\', 'x'] ++ Nat.toDigits 16 letter.toNat

def message : FieldFault → String
  | malformed layout kind => s!"Invalid format specifier '{layout}' for object of type '{kind}'"
  | tooManyDigits => "Too many decimal digits in format string"
  | noPlaces => "Format specifier missing precision"
  | bothSeparators => "Cannot specify both ',' and '_'."
  | separatorWith separator letter =>
    let shown := letterShown letter
    s!"Cannot specify '{separator}' with '{shown}'."
  | unknown letter kind =>
    let shown := letterShown letter
    s!"Unknown format code '{shown}' for object of type '{kind}'"
  | refused what values => s!"{what} not allowed {values}"
  | noLayout kind => s!"unsupported format string passed to {kind}.__format__"
  | outsideLetters => "%c arg not in range(0x110000)"
  | hugeLetter => "Python int too large to convert to C long"
  | tooLarge => "int too large to convert to float"
  | noRoom => ""

end FieldFault

namespace Field

def sideOf? (c : Char) : Option Side :=
  [('<', Side.left), ('>', .right), ('^', .middle), ('=', .inner)].lookup c

def startOf (field : Field) : List Char → Bool × Field × List Char
  | c :: d :: rest =>
    match sideOf? d, sideOf? c with
    | some side, _ => (true, { field with fill := c, side }, rest)
    | none, some side => (false, { field with side }, d :: rest)
    | none, none => (false, field, c :: d :: rest)
  | [c] =>
    match sideOf? c with
    | some side => (false, { field with side }, [])
    | none => (false, field, [c])
  | [] => (false, field, [])

def room : Nat := Nat.pow 2 40

def amountOf (letters : List Char) : Except FieldFault (Option Nat × List Char) :=
  let (digits, rest) := letters.span fun c => (digitValue? c).isSome
  let amount := digits.foldl (fun total c => total * 10 + (digitValue? c).getD 0) 0
  if Nat.pow 2 63 ≤ amount then .error .tooManyDigits
  else .ok (if digits.isEmpty then none else some amount, rest)

def flagOf (flag : Char) : List Char → Bool × List Char
  | c :: rest => if c == flag then (true, rest) else (false, c :: rest)
  | [] => (false, [])

/-- The way of writing at the end of a layout, with which a separator has to go together. -/
def letterOf (field : Field) (isNumber : Bool) (kind layout : String) (letters : List Char) :
    Except FieldFault Field := do
  let letter ←
    match letters with
    | [] => pure none
    | [letter] => pure (some letter)
    | _ => throw (.malformed layout kind)
  match field.separator, letter.or (if isNumber then none else some 's') with
  | some separator, some letter =>
    if !(['d', 'e', 'f', 'g', 'E', 'G', 'F', '%'].contains letter)
        && !(separator == '_' && ['b', 'o', 'x', 'X'].contains letter) then
      throw (.separatorWith separator letter)
  | _, _ => pure ()
  return { field with letter }

def ofLayout (isNumber : Bool) (kind layout : String) : Except FieldFault Field := do
  let (hasFill, field, letters) := startOf { } layout.toList
  let (sign, letters) := match letters with
    | c :: rest => if [' ', '+', '-'].contains c then (some c, rest) else (none, c :: rest)
    | [] => (none, [])
  let (isUnsignedZero, letters) := flagOf 'z' letters
  let (isMarked, letters) := flagOf '#' letters
  let (isFilled, letters) := if hasFill then (false, letters) else flagOf '0' letters
  let (width, letters) ← amountOf letters
  let (hasComma, letters) := flagOf ',' letters
  let (hasLine, letters) := flagOf '_' letters
  if hasLine && (hasComma || letters.head? == some ',') then throw .bothSeparators
  let (isExact, letters) := flagOf '.' letters
  let (places, letters) ← if isExact then amountOf letters else pure (none, letters)
  if isExact && places.isNone then throw .noPlaces
  let field :=
    { field with
      sign, isUnsignedZero, places
      isPlain := !isMarked
      fill := if isFilled then '0' else field.fill
      side := if isFilled && isNumber && field.side.isNone then some .inner else field.side
      width := width.getD 0
      separator := if hasLine then some '_' else if hasComma then some ',' else none }
  let field ← field.letterOf isNumber kind layout letters
  if room < field.width then throw .noRoom
  return field

/-- Letters in their place in a field, after what stands before anything that fills it. -/
def placed (field : Field) (side : Side) (start letters : List Char) : List Char :=
  let rest := field.width - start.length - letters.length
  match field.side.getD side with
  | .left => start ++ letters ++ List.replicate rest field.fill
  | .right => List.replicate rest field.fill ++ start ++ letters
  | .inner => start ++ List.replicate rest field.fill ++ letters
  | .middle => List.replicate (rest / 2) field.fill ++ start ++ letters ++ List.replicate (rest - rest / 2) field.fill

def written (field : Field) (content : String) : Except FieldFault String := do
  let values := "in string format specifier"
  if field.letter.any (· != 's') then throw (.unknown (field.letter.getD 's') "str")
  if let some sign := field.sign then throw (.refused (if sign == ' ' then "Space" else "Sign") values)
  if field.isUnsignedZero then throw (.refused "Negative zero coercion (z)" values)
  if !field.isPlain then throw (.refused "Alternate form (#)" values)
  if field.side == some .inner then throw (.refused "'=' alignment" values)
  return String.ofList (field.placed .left [] (field.places.elim content.toList content.toList.take))

def signOf (field : Field) (isNegative : Bool) : List Char :=
  if isNegative then ['-'] else if [some '+', some ' '].contains field.sign then field.sign.toList else []

def grouped (separator : Char) (size : Nat) (digits : List Char) : List Char :=
  (go digits.length digits).reverse.dropWhile (· == separator) |>.reverse
where
  go : Nat → List Char → List Char
    | _, [] => []
    | 0, letters => letters
    | left + 1, c :: rest => c :: (if left % size == 0 then separator :: go left rest else go left rest)

def digitsFor (width size : Nat) : Nat := width - (width - 1) / (size + 1)

/-- A number in its place: its sign, what shows its base, its digits before the point, and the rest. Zeros that fill
the field are digits too. -/
def number (field : Field) (sign base digits rest : List Char) (size : Nat) : String :=
  let start := sign ++ base
  let digits :=
    match field.separator with
    | none => digits
    | some separator =>
      let width := field.width - start.length - rest.length
      let count := if field.fill == '0' && field.side == some .inner then digitsFor width size else 0
      grouped separator size (List.replicate (count - digits.length) '0' ++ digits)
  String.ofList (field.placed .right start (digits ++ rest))

/-- The base that a letter stands for, and the size of groups of digits in it. -/
def bases : List (Char × Nat × Nat) :=
  [('d', 10, 3), ('n', 10, 3), ('b', 2, 4), ('o', 8, 4), ('x', 16, 4), ('X', 16, 4)]

/-- The style that a letter stands for. -/
def styles : List (Char × Style) :=
  [('e', .scientific), ('f', .fixed), ('g', .general), ('n', .general), ('%', .fixed)]

/-- The size of a double as a field without a letter has it: the fewest digits, or some many of them. -/
def sizeOf (field : Field) (amount : Double) : List Char :=
  match field.letter.bind fun letter => styles.lookup letter.toLower, field.places with
  | some style, places => amount.sized style (places.getD 6) !field.isPlain
  | none, none =>
    let size := amount.text.toList.dropWhile (· == '-')
    if field.isPlain || size.contains '.' || !amount.isFinite then size
    else let (digits, rest) := size.span Char.isDigit; digits ++ '.' :: rest
  | none, some places =>
    let count := max places 1
    let decimal := amount.withDigits count
    -- A whole number without a point takes one digit more, so it is written with an exponent sooner.
    let isLong := amount.isFinite && decimal.point == count
    let size :=
      if isLong then
        (if field.isPlain then decimal.trimmed 1 else decimal).scientific !field.isPlain
      else amount.sized .general places !field.isPlain
    if size.contains '.' || size.contains 'e' || !amount.isFinite then size else size ++ ['.', '0']

def double (field : Field) (amount : Double) : Except FieldFault String := do
  if let some letter := field.letter then
    if (styles.lookup letter.toLower).isNone || ['N'].contains letter then throw (.unknown letter "float")
  let isShare := field.letter == some '%'
  let amount := if isShare then amount.mul (.ofInt 100) else amount
  let size := field.sizeOf amount
  let size := if field.letter.any Char.isUpper then size.map Char.toUpper else size
  let isNegative := amount.isNegative && !amount.isNaN
    && !(field.isUnsignedZero && amount.isFinite && size.all fun c => !c.isDigit || c == '0')
  let (digits, rest) := size.span Char.isDigit
  return field.number (field.signOf isNegative) [] digits (if isShare then rest ++ ['%'] else rest) 3

def whole (field : Field) (kind : String) (amount : Int) : Except FieldFault String := do
  let letter := field.letter.getD 'd'
  match bases.lookup letter with
  | none =>
    if letter == 'c' then
      if field.places.isSome then throw (.refused "Precision" "in integer format specifier")
      if field.isUnsignedZero then throw (.refused "Negative zero coercion (z)" "in integer format specifier")
      if field.sign.isSome then throw (.refused "Sign" "with integer format specifier 'c'")
      if !field.isPlain then throw (.refused "Alternate form (#)" "with integer format specifier 'c'")
      if amount < -Int.pow 2 63 || Int.pow 2 63 ≤ amount then throw .hugeLetter
      if amount < 0 || 0x110000 ≤ amount then throw .outsideLetters
      return String.ofList (field.placed .right [] [(Letter.ofCode amount.toNat).standIn])
    else if (styles.lookup letter.toLower).isNone then throw (.unknown letter kind)
    else
      let near := Double.ofInt amount
      if near.isFinite then field.double near else throw .tooLarge
  | some (base, size) =>
    if field.places.isSome then throw (.refused "Precision" "in integer format specifier")
    if field.isUnsignedZero then throw (.refused "Negative zero coercion (z)" "in integer format specifier")
    let digits := Nat.toDigits base amount.natAbs
    let digits := if letter == 'X' then digits.map Char.toUpper else digits
    let shownBase := if field.isPlain || base == 10 then [] else ['0', letter]
    return field.number (field.signOf (amount < 0)) shownBase digits [] size

end Field

def fieldOf (layout : String) (value : Value) : Except FieldFault String :=
  if layout.isEmpty then .ok value.plain.displayed
  else
    match value with
    | .text content => do (← Field.ofLayout false "str" layout).written content.displayed
    | .int amount => do (← Field.ofLayout true "int" layout).whole "int" amount
    | .bool truth => do (← Field.ofLayout true "bool" layout).whole "bool" (if truth then 1 else 0)
    | .double amount => do (← Field.ofLayout true "float" layout).double amount
    | value => .error (.noLayout value.kindName)

end BoxTree.Text
