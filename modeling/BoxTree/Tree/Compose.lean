import BoxTree.Graph.Basic
import BoxTree.Tree.Basic

/-! Trees put together under a gate, and trees taken apart into graphs. -/

namespace BoxTree

namespace LinearTree

variable {α β : Type}

def shiftNames (offset : Int) (names : List (EdgeKey × Wording)) : List (EdgeKey × Wording) :=
  names.map fun entry => ((entry.1.1 + offset, entry.1.2 + offset), entry.2)

/-- Two trees under a new root: the first follows it, the second follows the first. An empty tree
cannot stand under a gate. -/
def combineOr (leftName : Wording) (left : LinearTree β) (rightName : Wording) (right : LinearTree β) :
    Option (LinearTree β) :=
  if left.isEmpty || right.isEmpty then none
  else
    let start : Int := 1 + left.length
    some
      { nodes := .or 1 start :: left.nodes.map (·.shift 1) ++ right.nodes.map (·.shift start)
        edgeNames :=
          [((0, 1), leftName), ((0, start), rightName)] ++ shiftNames 1 left.edgeNames ++
            shiftNames start right.edgeNames }

def emptyUnderGate : String := "Cannot combine an empty tree under an OR gate"

/-- The graph node of a tree node; a tree says nothing about event types and qualifiers. -/
def graphNode (id : α) : TreeNode β → Node α β
  | .box content _ => ⟨id, .box ⟨"", [], [], content⟩⟩
  | .and _ _ => ⟨id, .gate .and⟩
  | .or _ _ => ⟨id, .gate .or⟩
  | .not _ => ⟨id, .gate .not⟩

/-- The graph of a tree, with an id for every position. Edges are in child order and keep their names. -/
def toGraph (idOf : Int → α) (tree : LinearTree β) : Graph α β where
  nodes := tree.nodes.zipIdx.map fun (node, index) => graphNode (idOf index) node
  edges := tree.links.map fun (parent, child) =>
    ⟨idOf parent, idOf child, none, none, tree.edgeNameMap.lookup (parent, child)⟩

def positionId (start : Wording) (position : Int) : Wording := start ++ s!"-node-{position}"

end LinearTree
end BoxTree
