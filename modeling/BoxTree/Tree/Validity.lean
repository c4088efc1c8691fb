import BoxTree.Graph.Reach
import BoxTree.Tree.Basic

/-! When a linear tree is well formed: its root is at position zero, every other position has one
parent and is reached from the root, and names stand on its edges only. -/

namespace BoxTree

inductive TreeFault where
  | outside (parent child : Int) (size : Nat)
  | ownChild (parent : Int)
  | rootAsChild (parent : Int)
  | twoParents (child first second : Int)
  | unreachable (positions : List Int)
  | strayName (name : Wording) (key : EdgeKey)
deriving DecidableEq

namespace TreeFault

def message : TreeFault → Wording
  | outside parent child size =>
    s!"Tree node {parent} references child {child} outside tree of {size} node(s)"
  | ownChild parent => s!"Tree node {parent} references itself as child"
  | rootAsChild parent => s!"Tree node {parent} references root index 0 as child"
  | twoParents child first second => s!"Tree node {child} has two parents: {first} and {second}"
  | unreachable positions =>
    "Tree node(s) [" ++ ", ".intercalate (positions.map toString) ++ "] not reachable from root index 0"
  | strayName name key =>
    "Edge name '" ++ name ++ s!"' addresses ({key.1}, {key.2}), which is not an edge of the tree"

end TreeFault

namespace LinearTree

variable {β : Type}

def edgeFault? (size : Nat) (before : List (Int × Int)) (edge : Int × Int) : Option TreeFault :=
  let (parent, child) := edge
  if child < 0 ∨ size ≤ child then some (.outside parent child size)
  else if child = parent then some (.ownChild parent)
  else if child = 0 then some (.rootAsChild parent)
  else
    match before.find? (·.2 = child) with
    | some other => if other.1 = parent then none else some (.twoParents child other.1 parent)
    | none => none

def firstEdgeFault? (size : Nat) (before : List (Int × Int)) : List (Int × Int) → Option TreeFault
  | [] => none
  | edge :: rest => (edgeFault? size before edge).or (firstEdgeFault? size (before ++ [edge]) rest)

def positions (tree : LinearTree β) : List Int := (List.range tree.length).map Int.ofNat

/-- The positions that the root does not reach. -/
def unreached (tree : LinearTree β) : List Int :=
  let reached := region tree.positions tree.links 0
  tree.positions.filter (· ∉ reached)

/-- The first fault of a tree: of an edge, then of reachability, then of a name. -/
def fault? (tree : LinearTree β) : Option TreeFault :=
  match firstEdgeFault? tree.length [] tree.links with
  | some fault => some fault
  | none =>
    if !tree.unreached.isEmpty then some (.unreachable tree.unreached)
    else
      (tree.edgeNames.find? fun entry => entry.1 ∉ tree.links).map fun entry =>
        .strayName entry.2 entry.1

def isValid (tree : LinearTree β) : Bool := tree.fault?.isNone

end LinearTree
end BoxTree
