import BoxTree.Text.Digit

/-! Texts as documents hold them. An escape may name half of a pair of UTF-16 units without the other half, which is
then a letter of the text by itself. No file and no output can hold such a letter. -/

namespace BoxTree

inductive Letter where
  | char (c : Char)
  /-- Half of a pair, by its distance from the first unit of pairs. -/
  | half (distance : Fin 0x800)
deriving DecidableEq

namespace Letter

def ofCode (code : Nat) : Letter :=
  if ofHalf : 0xd800 ≤ code ∧ code < 0xe000 then half ⟨code - 0xd800, by omega⟩ else char (Char.ofNat code)

def code : Letter → Nat
  | char c => c.toNat
  | half distance => 0xd800 + distance

def char? : Letter → Option Char
  | char c => some c
  | half _ => none

def isHalf : Letter → Bool
  | char _ => false
  | half _ => true

/-- The letter itself, or in the place of a half one that has no case and is part of no word or number. -/
def standIn : Letter → Char
  | char c => c
  | half _ => '\uFFFD'

def displayed : Letter → List Char
  | char c => [c]
  | half distance => ['\\', 'u'] ++ Text.hexDigits 4 (0xd800 + distance)

end Letter

structure Broken where
  letters : List Letter
  holdsHalf : letters.any Letter.isHalf = true
deriving DecidableEq

inductive Wording where
  | whole (content : String)
  | broken (content : Broken)
deriving DecidableEq

namespace Wording

instance : Inhabited Wording := ⟨whole ""⟩

instance : Coe String Wording := ⟨whole⟩

def letters : Wording → List Letter
  | whole content => content.toList.map .char
  | broken content => content.letters

def ofLetters (letters : List Letter) : Wording :=
  if holdsHalf : letters.any Letter.isHalf = true then broken ⟨letters, holdsHalf⟩
  else whole (String.ofList (letters.filterMap Letter.char?))

def whole? : Wording → Option String
  | whole content => some content
  | broken _ => none

def isWhole (wording : Wording) : Bool := wording.whole?.isSome

def isEmpty : Wording → Bool
  | whole content => content.isEmpty
  | broken _ => false

def standIns : Wording → List Char
  | whole content => content.toList
  | broken content => content.letters.map Letter.standIn

def displayed : Wording → String
  | whole content => content
  | broken content => String.ofList (content.letters.flatMap Letter.displayed)

instance : Append Wording where
  append
    | whole first, whole second => whole (first ++ second)
    | first, second => ofLetters (first.letters ++ second.letters)

def join (between : String) : List Wording → Wording
  | [] => whole ""
  | [last] => last
  | first :: rest => first ++ whole between ++ join between rest

end Wording
end BoxTree
