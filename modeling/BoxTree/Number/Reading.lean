import BoxTree.Number.Double
import BoxTree.Text.Integer

/-! Doubles as people write them: blanks around, a sign, digits of any script with single underscores, a
point, an exponent; or a word for infinity or for no number. -/

namespace BoxTree.Double

def wholeRun? (letters : List Char) : Option (List Nat) :=
  (Text.digitRun? 10 letters).bind fun (digits, rest) => if rest.isEmpty then some digits else none

def exponent? (letters : List Char) : Option Int :=
  let (negative, unsigned) := Text.signed letters
  match wholeRun? unsigned with
  | none | some [] => none
  | some digits => some (if negative then -(Text.spelled 10 digits : Int) else Text.spelled 10 digits)

def ofUnsigned? (negative : Bool) (letters : List Char) : Option Double :=
  let word := letters.map Char.toLower
  if word == "inf".toList || word == "infinity".toList then some (infinity negative)
  else if word == "nan".toList then some nan
  else do
    let (mantissa, scaled) := letters.span fun c => c != 'e' && c != 'E'
    let exponent ← match scaled with | [] => some 0 | _ :: digits => exponent? digits
    let (before, fromPoint) := mantissa.span (· != '.')
    let whole ← wholeRun? before
    let places ← wholeRun? (fromPoint.drop 1)
    if whole.isEmpty && places.isEmpty then none
    else some (ofDecimal negative (Text.spelled 10 (whole ++ places)) (exponent - places.length))

def read? (letters : List Char) : Option Double :=
  let (negative, unsigned) := Text.signed (Text.trimBlanks letters)
  ofUnsigned? negative unsigned

end BoxTree.Double
