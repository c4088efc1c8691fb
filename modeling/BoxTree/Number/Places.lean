import BoxTree.Number.Shortest

/-! Doubles with a wanted number of decimal digits. The exact value is rounded once, a tie to the even digit. -/

namespace BoxTree

inductive Style where
  /-- Some many digits after the decimal point. -/
  | fixed
  /-- Some many digits after the first one, and an exponent. -/
  | scientific
  /-- Some many digits in all, with an exponent only for numbers of an unusual size. -/
  | general

namespace Decimal

/-- Digits around a decimal point, which is written if it is `pointed` or if digits follow it. -/
def positional (pointed : Bool) (decimal : Decimal) : List Char :=
  let whole := if decimal.point ≤ 0 then ['0'] else decimal.digits.take decimal.point.toNat
  let rest := List.replicate (-decimal.point).toNat '0' ++ decimal.digits.drop decimal.point.toNat
  whole ++ if pointed || !rest.isEmpty then '.' :: rest else []

/-- Digits with a decimal point after the first one, and an exponent of at least two digits. -/
def scientific (pointed : Bool) (decimal : Decimal) : List Char :=
  let exponent := decimal.point - 1
  let digits := (toString exponent.natAbs).toList
  positional pointed { decimal with point := 1 } ++ ['e', if exponent < 0 then '-' else '+'] ++
    List.replicate (2 - digits.length) '0' ++ digits

/-- A decimal without zeros at its end, as far as they stand after the first `kept` digits. -/
def trimmed (kept : Nat) (decimal : Decimal) : Decimal :=
  let (first, rest) := decimal.digits.splitAt kept
  { decimal with digits := first ++ (rest.reverse.dropWhile (· == '0')).reverse }

end Decimal

namespace Double

/-- The size of a finite double over `10 ^ place`, rounded to a whole number. -/
def roundedAt (d : Double) (place : Int) : Nat :=
  let (top, bottom) := d.fraction
  if place < 0 then roundDiv (top * Nat.pow 10 place.natAbs) bottom
  else roundDiv top (bottom * Nat.pow 10 place.natAbs)

/-- The size of a finite double with some many digits after the decimal point. -/
def withPlaces (d : Double) (places : Nat) : Decimal :=
  let digits := (toString (d.roundedAt (-places))).toList
  let digits := List.replicate (places + 1 - digits.length) '0' ++ digits
  ⟨digits, digits.length - places⟩

/-- The size of a finite double with some many digits in all. If rounding makes one digit more, the last one, which
is zero, is left out. -/
def withDigits (d : Double) (count : Nat) : Decimal :=
  if d.significand = 0 then ⟨List.replicate count '0', 1⟩
  else
    let point := d.point
    let digits := (toString (d.roundedAt (point - count))).toList
    ⟨digits.take count, point + (digits.length - count : Nat)⟩

/-- The size of a double in some style. What ends with zeros or a bare point keeps them only if it is `pointed`. -/
def sized (style : Style) (places : Nat) (pointed : Bool) (d : Double) : List Char :=
  if d.isNaN then ['n', 'a', 'n']
  else if !d.isFinite then ['i', 'n', 'f']
  else
    match style with
    | .fixed => (d.withPlaces places).positional pointed
    | .scientific => (d.withDigits (places + 1)).scientific pointed
    | .general =>
      let count := max places 1
      let decimal := d.withDigits count
      let isUsual := -4 < decimal.point && decimal.point ≤ count
      let kept := if isUsual then decimal.point.toNat else 1
      let shown := if pointed then decimal else decimal.trimmed kept
      if isUsual then shown.positional pointed else shown.scientific pointed

end Double
end BoxTree
