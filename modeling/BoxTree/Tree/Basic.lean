import BoxTree.Text.Wording

/-! Linear trees: a sequence of nodes that name their children by position, with names for some of the
edges. The node at position zero is the root. -/

namespace BoxTree

inductive TreeNode (β : Type) where
  | box (content : β) (children : List Int)
  | and (left right : Int)
  | or (left right : Int)
  | not (child : Int)
deriving DecidableEq

namespace TreeNode

variable {β γ : Type}

def children : TreeNode β → List Int
  | box _ children => children
  | and left right | or left right => [left, right]
  | not child => [child]

def mapChildren (f : Int → Int) : TreeNode β → TreeNode β
  | box content children => box content (children.map f)
  | and left right => and (f left) (f right)
  | or left right => or (f left) (f right)
  | not child => not (f child)

def shift (offset : Int) (node : TreeNode β) : TreeNode β := node.mapChildren (· + offset)

def mapContent (g : β → γ) : TreeNode β → TreeNode γ
  | box content children => box (g content) children
  | and left right => and left right
  | or left right => or left right
  | not child => not child

end TreeNode

abbrev EdgeKey := Int × Int

structure LinearTree (β : Type) where
  nodes : List (TreeNode β)
  edgeNames : List (EdgeKey × Wording)
deriving DecidableEq

namespace LinearTree

variable {β : Type}

def empty : LinearTree β := ⟨[], []⟩

def length (tree : LinearTree β) : Nat := tree.nodes.length

def isEmpty (tree : LinearTree β) : Bool := tree.nodes.isEmpty

/-- What an edge without a name of its own is called after, unless settings say otherwise. -/
def unnamedEdge : String := "unnamed_edge"

/-- The name of an edge: its first one, or else one made of both positions. -/
def edgeName (tree : LinearTree β) (unnamed : Wording) (parent child : Int) : Wording :=
  match tree.edgeNames.lookup (parent, child) with
  | some name => name
  | none => unnamed ++ s!"_{parent}_{child}"

/-- The names by edge: each edge at its first place, with its last name. -/
def edgeNameMap (tree : LinearTree β) : List (EdgeKey × Wording) :=
  tree.edgeNames.foldl (fun names entry => put entry names) []
where
  put (entry : EdgeKey × Wording) : List (EdgeKey × Wording) → List (EdgeKey × Wording)
    | [] => [entry]
    | other :: rest => if other.1 = entry.1 then entry :: rest else other :: put entry rest

def links (tree : LinearTree β) : List (Int × Int) :=
  (tree.nodes.zipIdx.map fun (node, index) => node.children.map fun child => ((index : Int), child)).flatten

end LinearTree
end BoxTree
