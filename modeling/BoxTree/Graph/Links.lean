import BoxTree.Graph.Dependency

/-! Who precedes whom: the ids of some nodes and the arcs between them. Parents and children are listed
once each, in the order of their first arcs. -/

namespace BoxTree

structure Links (α : Type) where
  ids : List α
  arcs : List (α × α)
  closed : ∀ arc ∈ arcs, arc.1 ∈ ids ∧ arc.2 ∈ ids

namespace Links

variable {α β : Type} [DecidableEq α]

def parents (links : Links α) (id : α) : List α :=
  ((links.arcs.filter (·.2 = id)).map (·.1)).eraseDups

def children (links : Links α) (id : α) : List α :=
  ((links.arcs.filter (·.1 = id)).map (·.2)).eraseDups

def isDisconnected (links : Links α) (id : α) : Bool :=
  (links.parents id).isEmpty && (links.children id).isEmpty

def isRoot (links : Links α) (id : α) : Bool :=
  (links.parents id).isEmpty && !(links.children id).isEmpty

def disconnected (links : Links α) : List α := links.ids.filter links.isDisconnected

def roots (links : Links α) : List α := links.ids.filter links.isRoot

def connected (links : Links α) : List α := links.ids.filter fun id => !links.isDisconnected id

def strayEnd? (ids : List α) (arc : α × α) : Option α :=
  if arc.1 ∉ ids then some arc.1 else if arc.2 ∉ ids then some arc.2 else none

theorem strayEnd?_eq_none_iff {ids : List α} {arc : α × α} :
    strayEnd? ids arc = none ↔ arc.1 ∈ ids ∧ arc.2 ∈ ids := by
  unfold strayEnd?
  split
  · simp_all
  · split <;> simp_all

/-- The links of a graph fragment, if every edge joins two of its nodes. -/
def ofFragment (nodes : List (Node α β)) (edges : List (Edge α)) : Except (LookupError α) (Links α) :=
  let ids := nodes.map (·.id)
  let arcs := edges.map (·.arc)
  match found : arcs.findSome? (strayEnd? ids) with
  | some id => .error (.unknownNode id)
  | none =>
    .ok ⟨ids, arcs, fun arc member =>
      strayEnd?_eq_none_iff.1 (List.findSome?_eq_none_iff.1 found arc member)⟩

end Links
end BoxTree
