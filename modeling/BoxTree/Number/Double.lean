/-! Double-precision numbers by their sixty-four bits. A finite double is a sign and a dyadic fraction
`significand · 2 ^ scale`; a fraction is rounded to the nearest double, a tie to the even one. -/

namespace BoxTree

structure Double where
  bits : UInt64
deriving DecidableEq, Inhabited

namespace Double

def isNegative (d : Double) : Bool := d.bits >>> 63 == 1

def exponentField (d : Double) : Nat := ((d.bits >>> 52) &&& 0x7ff).toNat

def fractionField (d : Double) : Nat := (d.bits &&& 0xfffffffffffff).toNat

def isFinite (d : Double) : Bool := d.exponentField != 0x7ff

def isNaN (d : Double) : Bool := !d.isFinite && d.fractionField != 0

def significand (d : Double) : Nat :=
  if d.exponentField = 0 then d.fractionField else Nat.pow 2 52 + d.fractionField

def scale (d : Double) : Int :=
  if d.exponentField = 0 then -1074 else d.exponentField - 1075

def isZero (d : Double) : Bool := d.isFinite && d.significand == 0

def ofFields (negative : Bool) (exponent fraction : Nat) : Double :=
  ⟨(if negative then 0x8000000000000000 else 0) ||| UInt64.ofNat (exponent * 0x10000000000000 + fraction)⟩

def nan : Double := ofFields false 0x7ff 0x8000000000000

def infinity (negative : Bool) : Double := ofFields negative 0x7ff 0

/-- The double `count · 2 ^ scale`, for a count below `2 ^ 53`; too large a scale gives infinity. -/
def ofScaled (negative : Bool) (count : Nat) (scale : Int) : Double :=
  if count < Nat.pow 2 52 then ofFields negative 0 count
  else if 971 < scale then infinity negative
  else ofFields negative (scale + 1075).toNat (count - Nat.pow 2 52)

/-- A quotient rounded to the nearest whole number, a tie to the even one. -/
def roundDiv (top bottom : Nat) : Nat :=
  let whole := top / bottom
  let twice := 2 * (top % bottom)
  if bottom < twice || (twice == bottom && whole % 2 == 1) then whole + 1 else whole

/-- The value of `top / bottom` in units of `2 ^ scale`, as a fraction. -/
def inUnits (top bottom : Nat) (scale : Int) : Nat × Nat :=
  if scale < 0 then (top * Nat.pow 2 scale.natAbs, bottom) else (top, bottom * Nat.pow 2 scale.natAbs)

/-- The double nearest to `top / bottom`. -/
def nearest (negative : Bool) (top bottom : Nat) : Double :=
  if top = 0 then ofFields negative 0 0
  else
    let guess : Int := (top.log2 : Int) - bottom.log2 - 52
    let (a, b) := inUnits top bottom guess
    let fitted := if a / b < Nat.pow 2 52 then guess - 1 else guess
    let scale := max fitted (-1074)
    let (a, b) := inUnits top bottom scale
    let count := roundDiv a b
    if count = Nat.pow 2 53 then ofScaled negative (Nat.pow 2 52) (scale + 1) else ofScaled negative count scale

/-- The double nearest to `digits · 10 ^ exponent`. Exponents far outside the range are cut short, so
that no power of ten larger than the range is ever formed. -/
def ofDecimal (negative : Bool) (digits : Nat) (exponent : Int) : Double :=
  let length : Int := (toString digits).length
  if digits = 0 then ofFields negative 0 0
  else if 400 < length + exponent then infinity negative
  else if length + exponent < -400 then ofFields negative 0 0
  else if 0 ≤ exponent then nearest negative (digits * Nat.pow 10 exponent.toNat) 1
  else nearest negative digits (Nat.pow 10 exponent.natAbs)

def ofInt (n : Int) : Double := nearest (n < 0) n.natAbs 1

def fraction (d : Double) : Nat × Nat :=
  if d.scale < 0 then (d.significand, Nat.pow 2 d.scale.natAbs) else (d.significand * Nat.pow 2 d.scale.natAbs, 1)

def truncate (d : Double) : Int :=
  let (top, bottom) := d.fraction
  if d.isNegative then -(top / bottom : Nat) else (top / bottom : Nat)

def whole? (d : Double) : Option Int :=
  let (top, bottom) := d.fraction
  if d.isFinite && top % bottom == 0 then some d.truncate else none

def signedTop (d : Double) : Int :=
  if d.isNegative then -(d.fraction.1 : Int) else d.fraction.1

/-- The nearest double to a sum. Infinities of different signs have none. -/
def add (left right : Double) : Double :=
  if left.isNaN || right.isNaN then nan
  else if left.isFinite && right.isFinite then
    let (_, b) := left.fraction
    let (_, d) := right.fraction
    let top := left.signedTop * d + right.signedTop * b
    nearest (if top = 0 then left.isNegative && right.isNegative else top < 0) top.natAbs (b * d)
  else if left.isFinite then right
  else if right.isFinite || left == right then left
  else nan

/-- The nearest double to a product. Zero and infinity have none. -/
def mul (left right : Double) : Double :=
  let negative := left.isNegative != right.isNegative
  if left.isNaN || right.isNaN then nan
  else if left.isFinite && right.isFinite then
    let (a, b) := left.fraction
    let (c, d) := right.fraction
    nearest negative (a * c) (b * d)
  else if left.isZero || right.isZero then nan
  else infinity negative

/-- Equality of numbers: zeros of either sign agree and a NaN differs from everything. -/
def same (left right : Double) : Bool :=
  !left.isNaN && !right.isNaN && (left == right || (left.isZero && right.isZero))

end Double
end BoxTree
