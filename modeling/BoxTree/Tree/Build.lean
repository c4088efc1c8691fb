import BoxTree.Graph.Basic
import BoxTree.Tree.Basic

/-! Trees from linear orders. A node with several parents in the order is the child of one of them: a
gate rather than a box, since gates need a fixed number of children, and of equals the latest. -/

namespace BoxTree

structure ArityFault (α : Type) where
  gate : α
  expected : Nat
  actual : Nat
deriving DecidableEq

def ArityFault.message (fault : ArityFault Wording) : Wording :=
  "Gate '" ++ fault.gate ++ s!"' requires exactly {fault.expected} child(ren), found {fault.actual}"

def ArityFault.summary (faults : List (ArityFault Wording)) : Wording :=
  Wording.join "; " (faults.map message)

namespace Build

variable {α β : Type} [DecidableEq α]

/-- The last place of an id in an order. -/
def place? (id : α) : List (Node α β) → Option Nat
  | [] => none
  | node :: rest =>
    match place? id rest with
    | some place => some (place + 1)
    | none => if node.id = id then some 0 else none

/-- How a parent ranks: whether it is a gate, then its place. -/
def rank (order : List (Node α β)) (id : α) : Bool × Nat :=
  (((findNode? order id).map (·.isGate)).getD false, (place? id order).getD 0)

/-- Whether a rank is above another: a gate is above a box, and a later place above an earlier one. -/
def above (left right : Bool × Nat) : Bool :=
  if left.1 = right.1 then decide (right.2 < left.2) else left.1

def isInner (order : List (Node α β)) (edge : Edge α) : Bool :=
  (place? edge.source order).isSome && (place? edge.target order).isSome && edge.source ≠ edge.target

/-- The parent whose child a node is. -/
def treeParent? (order : List (Node α β)) (edges : List (Edge α)) (id : α) : Option α :=
  (edges.filter fun edge => isInner order edge && edge.target = id).foldl
    (fun best edge =>
      match best with
      | none => some edge.source
      | some parent =>
        if above (rank order edge.source) (rank order parent) then some edge.source else some parent)
    none

/-- The edges from each node's parent to the node, parallel ones included. -/
def treeEdges (order : List (Node α β)) (edges : List (Edge α)) : List (Edge α) :=
  edges.filter fun edge => treeParent? order edges edge.target = some edge.source

/-- The places of a node's children, in the order of their first edges. -/
def childPlaces (order : List (Node α β)) (joined : List (Edge α)) (id : α) : List Nat :=
  ((joined.filter (·.source = id)).filterMap fun edge => place? edge.target order).eraseDups

def treeNode (node : Node α β) (children : List Nat) : Except (ArityFault α) (TreeNode β) :=
  match node.body, children with
  | .box event, children => .ok (.box event.content (children.map Int.ofNat))
  | .gate .and, [left, right] => .ok (.and left right)
  | .gate .or, [left, right] => .ok (.or left right)
  | .gate .not, [child] => .ok (.not child)
  | .gate kind, children => .error ⟨node.id, kind.arity, children.length⟩

/-- The name of each named edge: the first name among parallel edges. -/
def edgeNames (order : List (Node α β)) (joined : List (Edge α)) : List (EdgeKey × Wording) :=
  let named := joined.filterMap fun edge => do
    let name ← edge.name
    let parent ← place? edge.source order
    let child ← place? edge.target order
    return (((parent : Int), (child : Int)), name)
  (named.map (·.1)).eraseDups.filterMap fun key => (named.lookup key).map (key, ·)

end Build

variable {α β : Type} [DecidableEq α]

/-- The tree of a linear order, whose places become the positions in the tree. All gates with the wrong
number of children are reported; none is mended. -/
def build (order : List (Node α β)) (edges : List (Edge α)) :
    Except (List (ArityFault α)) (LinearTree β) :=
  let joined := Build.treeEdges order edges
  let built := order.map fun node => Build.treeNode node (Build.childPlaces order joined node.id)
  match built.filterMap fun | .error fault => some fault | .ok _ => none with
  | [] => .ok ⟨built.filterMap Except.toOption, Build.edgeNames order joined⟩
  | faults => .error faults

end BoxTree
