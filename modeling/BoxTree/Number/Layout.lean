import BoxTree.Number.Shortest

/-! How the digits of a double are laid out: positional in a middle range, scientific outside it. -/

namespace BoxTree

structure Layout where
  /-- Positional notation for decimal points above this place … -/
  above : Int
  /-- … and up to this one. -/
  upTo : Int
  wholeEnding : String
  exponentWidth : Nat
  signedZero : Bool

namespace Layout

/-- Numbers in canonical text: positional below ten to the twenty-first, whole numbers bare. -/
def canonical : Layout := ⟨-6, 21, "", 1, false⟩

/-- Numbers in messages: positional below ten to the sixteenth, whole numbers with `.0`. -/
def message : Layout := ⟨-4, 16, ".0", 2, true⟩

def zeros (count : Int) : List Char := List.replicate count.toNat '0'

def scientific (layout : Layout) (decimal : Decimal) : List Char :=
  let exponent := decimal.point - 1
  let digits := (toString exponent.natAbs).toList
  let mantissa :=
    match decimal.digits with
    | [] => []
    | [d] => [d]
    | d :: more => d :: '.' :: more
  mantissa ++ ['e', if exponent < 0 then '-' else '+'] ++
    List.replicate (layout.exponentWidth - digits.length) '0' ++ digits

def positional (layout : Layout) (decimal : Decimal) : List Char :=
  let count : Int := decimal.digits.length
  if decimal.point ≤ 0 then ['0', '.'] ++ zeros (-decimal.point) ++ decimal.digits
  else if count ≤ decimal.point then
    decimal.digits ++ zeros (decimal.point - count) ++ layout.wholeEnding.toList
  else decimal.digits.take decimal.point.toNat ++ ['.'] ++ decimal.digits.drop decimal.point.toNat

def letters (layout : Layout) (d : Double) : List Char :=
  let decimal := d.shortest
  let size :=
    if layout.above < decimal.point && decimal.point ≤ layout.upTo then layout.positional decimal
    else layout.scientific decimal
  if d.isNegative && (layout.signedZero || !d.isZero) then '-' :: size else size

end Layout

namespace Double

def text (d : Double) : String :=
  if d.isNaN then "nan"
  else if !d.isFinite then if d.isNegative then "-inf" else "inf"
  else String.ofList (Layout.message.letters d)

end Double
end BoxTree
