import BoxTree.Number.Double

/-! The fewest decimal digits that read back as a double, and of those the nearest to it. -/

namespace BoxTree

/-- A number `0.d₁d₂… · 10 ^ point` by its digits and the place of its decimal point. -/
structure Decimal where
  digits : List Char
  point : Int

namespace Double

/-- Twice the ends of the interval of numbers that round to `significand · 2 ^ scale`, in quarters of a
unit: the lower end is nearer where the spacing below is halved. -/
structure Interval where
  low : Nat
  value : Nat
  high : Nat
  /-- The size of one quarter unit is `top / bottom`. -/
  top : Nat
  bottom : Nat
  closed : Bool

def interval (d : Double) : Interval :=
  let count := d.significand
  let narrow := count == Nat.pow 2 52 && 1 < d.exponentField
  let quarter := d.scale - 2
  { low := 4 * count - (if narrow then 1 else 2)
    value := 4 * count
    high := 4 * count + 2
    top := if quarter < 0 then 1 else Nat.pow 2 quarter.natAbs
    bottom := if quarter < 0 then Nat.pow 2 quarter.natAbs else 1
    closed := count % 2 == 0 }

/-- Whether `number · 10 ^ place` lies in the interval. -/
def Interval.holds (i : Interval) (number : Nat) (place : Int) : Bool :=
  let left := number * (if place < 0 then 1 else Nat.pow 10 place.natAbs) * i.bottom
  let unit := i.top * (if place < 0 then Nat.pow 10 place.natAbs else 1)
  if i.closed then i.low * unit ≤ left && left ≤ i.high * unit
  else i.low * unit < left && left < i.high * unit

/-- The value over `10 ^ place`, as a fraction. -/
def Interval.scaled (i : Interval) (place : Int) : Nat × Nat :=
  (i.value * i.top * (if place < 0 then Nat.pow 10 place.natAbs else 1),
    i.bottom * (if place < 0 then 1 else Nat.pow 10 place.natAbs))

/-- The least exponent `p` with the value below `10 ^ p`, searched upwards from a low guess. -/
def magnitude (i : Interval) : Nat → Int → Int
  | 0, guess => guess
  | tries + 1, guess =>
    let (a, b) := i.scaled guess
    if a < b then guess else magnitude i tries (guess + 1)

/-- The nearest number of `10 ^ place` in the interval among the two next to the value. -/
def Interval.candidate? (i : Interval) (place : Int) : Option Nat :=
  let (a, b) := i.scaled place
  let below := a / b
  let twice := 2 * (a % b)
  let (first, second) :=
    if twice < b || (twice == b && below % 2 == 0) then (below, below + 1) else (below + 1, below)
  if 0 < first && i.holds first place then some first
  else if 0 < second && i.holds second place then some second
  else none

def search (i : Interval) (point : Int) : Nat → Nat → Nat × Int
  | 0, count => ((i.scaled (point - count)).1 / (i.scaled (point - count)).2, point - count)
  | more + 1, count =>
    match i.candidate? (point - count) with
    | some number => (number, point - count)
    | none => search i point more (count + 1)

/-- The least exponent `p` with the size of a double other than zero below `10 ^ p`. -/
def point (d : Double) : Int :=
  -- `30103 / 100000` is just above the decimal logarithm of two.
  magnitude d.interval 5 ((d.scale + d.significand.log2) * 30103 / 100000 - 1)

/-- The shortest decimal of the size of a finite double; zero has the single digit zero. -/
def shortest (d : Double) : Decimal :=
  if d.significand = 0 then ⟨['0'], 1⟩
  else
    let (number, place) := search d.interval d.point 17 1
    let digits := (toString number).toList
    ⟨(digits.reverse.dropWhile (· == '0')).reverse, place + digits.length⟩

end Double
end BoxTree
