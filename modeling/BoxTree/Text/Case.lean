import BoxTree.Text.CaseTable
import BoxTree.Text.Wording

/-! Upper and lower case of whole texts, with the mappings that give several letters and the sigma
that changes its form at the end of a word. -/

namespace BoxTree

namespace Text

def within (ranges : List (Nat × Nat)) (c : Char) : Bool :=
  ranges.any fun (first, last) => first ≤ c.toNat && c.toNat ≤ last

def move (expansions : List (Nat × List Nat)) (runs : List CaseRun) (c : Char) : List Char :=
  match expansions.lookup c.toNat with
  | some codes => codes.map Char.ofNat
  | none =>
    match runs.find? (·.covers c.toNat) with
    | some run => [Char.ofNat (c.toNat + run.shift).toNat]
    | none => [c]

def upperLetter (c : Char) : List Char := move upperExpansions upperRuns c

def lowerLetter (c : Char) : List Char := move lowerExpansions lowerRuns c

def isUpperLetter (c : Char) : Bool := upperLetters.any (·.covers c.toNat)

def isLowerLetter (c : Char) : Bool := lowerLetters.any (·.covers c.toNat)

def isTitleLetter (c : Char) : Bool := within titleLetters c

/-- Whether the nearest letter that is not passed over has case. -/
def nextIsCased (letters : List Char) : Bool :=
  match letters.dropWhile (within caseIgnorable) with
  | c :: _ => within casedLetters c
  | [] => false

/-- Lower case of a letter between those before it, backwards, and those after it. -/
def lowerBetween (before : List Char) (c : Char) (after : List Char) : List Char :=
  if c == 'Σ' then if nextIsCased before && !nextIsCased after then ['ς'] else ['σ']
  else lowerLetter c

/-- Lower case of the letters that follow `before`, which holds the earlier letters backwards. -/
def lowerFrom (before : List Char) : List Char → List Char
  | [] => []
  | c :: rest => lowerBetween before c rest ++ lowerFrom (c :: before) rest

def upper (text : String) : String :=
  String.ofList (text.toList.flatMap upperLetter)

def lower (text : String) : String :=
  String.ofList (lowerFrom [] text.toList)

/-- Some letter is upper case and none is lower or title case. -/
def isUpper (text : String) : Bool :=
  text.toList.any isUpperLetter && text.toList.all fun c => !isLowerLetter c && !isTitleLetter c

end Text

namespace Letter

/-- A letter changed by what becomes of characters; halves stay. -/
def change (letter : Letter) (become : Char → List Char) : List Letter :=
  match letter with
  | char c => (become c).map char
  | half distance => [half distance]

def lowerFrom (before : List Char) : List Letter → List Letter
  | [] => []
  | letter :: rest =>
    letter.change (Text.lowerBetween before · (rest.map standIn)) ++ lowerFrom (letter.standIn :: before) rest

end Letter

namespace Wording

def upper : Wording → Wording
  | whole content => whole (Text.upper content)
  | broken content => ofLetters (content.letters.flatMap (·.change Text.upperLetter))

def lower : Wording → Wording
  | whole content => whole (Text.lower content)
  | broken content => ofLetters (Letter.lowerFrom [] content.letters)

def isUpper (wording : Wording) : Bool := Text.isUpper (String.ofList wording.standIns)

end Wording
end BoxTree
