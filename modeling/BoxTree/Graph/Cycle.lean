import BoxTree.Graph.Links

/-! Search for a cycle behind given nodes: arcs are followed backwards, depth first, and the first arc
that returns to the current path closes a cycle. -/

namespace BoxTree

variable {α : Type} [DecidableEq α]

/-- The arcs of a depth-first walk in the order they are taken. Each arc is taken once; from the top of
the stack the first unused arc is taken, even to a node seen before. -/
def walk : List α → List (α × α) → List (α × α)
  | [], _ => []
  | top :: stack, unused =>
    match _found : unused.find? fun arc => arc.1 = top with
    | none => walk stack unused
    | some arc => arc :: walk (arc.2 :: top :: stack) (unused.erase arc)
termination_by stack unused => 2 * unused.length + stack.length
decreasing_by
  · simp
  · have member := List.mem_of_find?_eq_some _found
    have := List.length_erase_of_mem member
    have := List.length_pos_of_mem member
    simp only [List.length_cons]
    omega

/-- The current path of a search: its start and its arcs, the latest first. -/
structure Trail (α : Type) where
  start : α
  arcs : List (α × α)

namespace Trail

def head (trail : Trail α) : α := (trail.arcs.head?.map (·.2)).getD trail.start

def nodes (trail : Trail α) : List α := trail.start :: trail.arcs.map (·.2)

/-- Give up the arcs after a node; a node off the path starts a new one. -/
def backTo (trail : Trail α) (id : α) : Trail α :=
  match trail.arcs.dropWhile (·.2 ≠ id) with
  | [] => ⟨id, []⟩
  | arcs => ⟨trail.start, arcs⟩

/-- The part of a path that an arc back to one of its nodes closes, in the order of the path. -/
def closing (trail : Trail α) (arc : α × α) : List (α × α) :=
  (arc :: trail.arcs).reverse.dropWhile (·.1 ≠ arc.2)

end Trail

/-- Follow a walk until an arc returns to the path. Arcs into nodes explored before lead nowhere new. -/
def closeCycle? (explored : List α) : Trail α → List (α × α) → Option (List (α × α))
  | _, [] => none
  | trail, arc :: rest =>
    if arc.2 ∈ explored then closeCycle? explored trail rest
    else
      let trail := if arc.1 = trail.head then trail else trail.backTo arc.1
      if arc.2 ∈ trail.nodes then some (trail.closing arc)
      else closeCycle? explored ⟨trail.start, arc :: trail.arcs⟩ rest

/-- The arcs of a cycle that can be reached from one of the sources, tried in order. -/
def findCycle? (arcs : List (α × α)) (explored : List α) : List α → Option (List (α × α))
  | [] => none
  | source :: sources =>
    if source ∈ explored then findCycle? arcs explored sources
    else
      let taken := walk [source] arcs
      match closeCycle? explored ⟨source, []⟩ taken with
      | some cycle => some cycle
      | none => findCycle? arcs (explored ++ source :: taken.map (·.2)) sources

namespace Links

/-- All arcs backwards, the arcs of one node in the order of its parents among the ids. -/
def backward (links : Links α) : List (α × α) :=
  links.ids.flatMap fun id => (links.children id).map (·, id)

/-- A cycle among the ancestors of the given nodes, in the direction of its arcs. -/
def cycleBehind (links : Links α) (nodes : List α) : List α :=
  match findCycle? links.backward [] nodes with
  | some arcs => (arcs.map (·.1)).reverse
  | none => []

end Links
end BoxTree
