import BoxTree.Graph.Basic

/-! Reachability within a finite set of nodes, and the parts of a graph that hang together. -/

namespace BoxTree

variable {α : Type} [DecidableEq α]

def targets (arcs : List (α × α)) (id : α) : List α :=
  (arcs.filter (·.1 = id)).map (·.2)

/-- Everything that can be reached from the pending nodes through unseen ones. Each discovery takes a
node out of the unseen set, so cycles need no bound. -/
def spread (arcs : List (α × α)) (unseen : List α) : List α → List α
  | [] => []
  | id :: pending =>
    if id ∈ unseen then id :: spread arcs (unseen.erase id) (targets arcs id ++ pending)
    else spread arcs unseen pending
termination_by pending => (unseen.length, pending.length)
decreasing_by
  · rename_i member
    have := List.length_erase_of_mem member
    have := List.length_pos_of_mem member
    exact Prod.Lex.left _ _ (by omega)
  · exact Prod.Lex.right _ (by simp)

/-- A node and all that it reaches within the given nodes. -/
def region (nodes : List α) (arcs : List (α × α)) (id : α) : List α :=
  spread arcs nodes [id]

def bothWays (arcs : List (α × α)) : List (α × α) :=
  arcs.flatMap fun arc => [arc, arc.swap]

/-- Whether two nodes hang together when directions are ignored. -/
def together (nodes : List α) (arcs : List (α × α)) (left right : α) : Bool :=
  right ∈ region nodes (bothWays arcs) left

/-- The nodes, split into groups that hang together. Groups are in the order of their first nodes, and
nodes keep their order within a group. -/
def groups (domain : List α) (arcs : List (α × α)) : List α → List (List α)
  | [] => []
  | id :: rest =>
    let near := region domain (bothWays arcs) id
    (id :: rest.filter (· ∈ near)) :: groups domain arcs (rest.filter (· ∉ near))
termination_by nodes => nodes.length
decreasing_by
  rw [List.length_unattach, List.length_cons]
  exact Nat.lt_succ_of_le (Nat.le_trans (List.length_filter_le _ _) (Nat.le_of_eq List.length_attach))

def components (nodes : List α) (arcs : List (α × α)) : List (List α) :=
  (groups nodes arcs nodes).filter fun group => arcs.any fun arc => arc.1 ∈ group

end BoxTree
