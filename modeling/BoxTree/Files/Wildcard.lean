import BoxTree.Files.Path

/-! Wildcards in paths: a star stands for any letters of a part, a question mark for one letter, and square brackets
for one of the letters in them. -/

namespace BoxTree

namespace Wildcard

def isPattern (part : String) : Bool := part.toList.any fun c => c == '*' || c == '?' || c == '['

/-- The letters that a pair of brackets stands for, as ranges, and what follows them. A bracket at the start, or after
an exclamation mark there, does not close them. -/
def setOf? (letters : List Char) : Option (List Char × List Char) :=
  let (start, rest) := match letters with | '!' :: rest => (['!'], rest) | _ => ([], letters)
  let (first, rest) := match rest with | ']' :: rest => ([']'], rest) | _ => ([], rest)
  match rest.span (· != ']') with
  | (inside, _ :: after) => some (start ++ first ++ inside, after)
  | (_, []) => none

def ranges : List Char → List (Char × Char)
  | first :: '-' :: last :: rest => (first, last) :: ranges rest
  | c :: rest => (c, c) :: ranges rest
  | [] => []

def inSet (set : List Char) (c : Char) : Bool :=
  let among (set : List Char) : Bool := (ranges set).any fun (first, last) => first ≤ c && c ≤ last
  match set with
  | '!' :: set => !among set
  | set => among set

inductive Demand where
  | any
  | letter (accepts : Char → Bool)

def demands : Nat → List Char → List Demand
  | 0, _ | _, [] => []
  | fuel + 1, '*' :: rest => .any :: demands fuel rest
  | fuel + 1, '?' :: rest => .letter (fun _ => true) :: demands fuel rest
  | fuel + 1, '[' :: rest =>
    match setOf? rest with
    | some (set, after) => .letter (inSet set) :: demands fuel after
    | none => .letter (· == '[') :: demands fuel rest
  | fuel + 1, c :: rest => .letter (· == c) :: demands fuel rest

def meets : List Demand → List Char → Bool
  | [], letters => letters.isEmpty
  | .any :: demands, letters => (List.range (letters.length + 1)).any fun count => meets demands (letters.drop count)
  | .letter _ :: _, [] => false
  | .letter accepts :: demands, c :: rest => accepts c && meets demands rest

/-- Whether a part of a path stands for a name. Wildcards stand for no hidden names. -/
def standsFor (part name : String) : Bool :=
  if isPattern part then
    (part.startsWith "." || !name.startsWith ".") && meets (demands part.length part.toList) name.toList
  else part == name

end Wildcard

namespace Path

def isPattern (path : Path) : Bool := path.parts.any Wildcard.isPattern

/-- Whether a path with wildcards stands for another one. -/
def standsFor (pattern path : Path) : Bool :=
  pattern.root == path.root && pattern.parts.length == path.parts.length &&
    (pattern.parts.zip path.parts).all fun (part, name) => Wildcard.standsFor part name

/-- The paths that one stands for, in alphabetical order. -/
def matching (pattern : Path) (known : List Path) : List Path :=
  if pattern.isPattern then (known.filter pattern.standsFor).mergeSort fun left right => left.text ≤ right.text
  else [pattern]

end Path
end BoxTree
