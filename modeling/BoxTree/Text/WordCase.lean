import BoxTree.Text.Case
import BoxTree.Text.WordCaseTable

/-! Case as it stands in titles and sentences, with cases exchanged, and taken away for comparison. -/

namespace BoxTree.Text

def titleLetter (c : Char) : List Char :=
  if titleExpansions.any (·.1 == c.toNat) || titleRuns.any (·.covers c.toNat) then move titleExpansions titleRuns c
  else upperLetter c

def foldedLetter (c : Char) : List Char :=
  if foldExpansions.any (·.1 == c.toNat) || foldRuns.any (·.covers c.toNat) then move foldExpansions foldRuns c
  else lowerLetter c

/-- Lower case of a letter between others; `before` holds the earlier ones backwards. -/
def lowerAmong (before : List Char) (c : Char) (rest : List Char) : List Char :=
  if c == 'Σ' then if nextIsCased before && !nextIsCased rest then ['ς'] else ['σ'] else lowerLetter c

def hasCase (c : Char) : Bool := isUpperLetter c || isLowerLetter c || isTitleLetter c

def titleFrom (before : List Char) : List Char → List Char
  | [] => []
  | c :: rest =>
    (if before.head?.any hasCase then lowerAmong before c rest else titleLetter c)
      ++ titleFrom (c :: before) rest

/-- A text in which every word begins in upper case and goes on in lower case. -/
def title (text : String) : String := String.ofList (titleFrom [] text.toList)

def capitalized (text : String) : String :=
  match text.toList with
  | [] => ""
  | c :: rest => String.ofList (titleLetter c ++ lowerFrom [c] rest)

def swapFrom (before : List Char) : List Char → List Char
  | [] => []
  | c :: rest =>
    (if isUpperLetter c then lowerAmong before c rest else if isLowerLetter c then upperLetter c else [c])
      ++ swapFrom (c :: before) rest

def swapped (text : String) : String := String.ofList (swapFrom [] text.toList)

def folded (text : String) : String := String.ofList (text.toList.flatMap foldedLetter)

end BoxTree.Text
