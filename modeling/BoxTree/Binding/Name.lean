import BoxTree.Graph.Dependency
import BoxTree.Text.Case

/-! Names of object variables: the first letters of the object type, upper case if the variable ranges
over a set, and a number that tells it apart. -/

namespace BoxTree.Binding

/-- The letters up to a place; a negative place counts from the end. -/
def takeTo {γ : Type} (count : Int) (letters : List γ) : List γ :=
  if 0 ≤ count then letters.take count.toNat else letters.take (letters.length - count.natAbs)

def stem (objectType : Wording) (quantifiesSet : Bool) (width : Int) : Wording :=
  let start := Wording.ofLetters (takeTo width objectType.letters)
  if quantifiesSet then start.upper else start.lower

def baseName (objectType : Wording) (dependency : DependencyType) (width : Int) : Wording :=
  stem objectType dependency.quantifiesSet width

def numbered (base : Wording) (number : Nat) : Wording := base ++ s!"_{number}"

/-- The name before its last underscore, or all of it. -/
def stemOf (name : Wording) : Wording :=
  let backwards := name.letters.reverse
  match backwards.dropWhile (· ≠ .char '_') with
  | [] => name
  | _ :: rest => .ofLetters rest.reverse

def declaredQuantifiesSet (name : Wording) : Bool := (stemOf name).isUpper

def pickName (base : Wording) (taken : List Wording) : Wording :=
  let free? := (List.range (taken.length + 1)).find? fun number => numbered base number ∉ taken
  numbered base (free?.getD 0)

end BoxTree.Binding
