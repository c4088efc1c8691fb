import BoxTree.Proofs.EdgeNames
import BoxTree.Proofs.TreeParents

/-! What building comes to for every order of different nodes and every list of edges: either the tree in which each node
has the children of its place, or exactly the gates whose number of children is wrong. -/

namespace BoxTree
namespace Build

variable {α β : Type}

section Outcome

variable [DecidableEq α] (order : List (Node α β)) (edges : List (Edge α))

omit [DecidableEq α] in
def gateFault? (node : Node α β) (count : Nat) : Option (ArityFault α) :=
  match node.body with
  | .box _ => none
  | .gate kind => if count = kind.arity then none else some ⟨node.id, kind.arity, count⟩

omit [DecidableEq α] in
def arityFaults (children : Nat → List Nat) : List (ArityFault α) :=
  order.zipIdx.filterMap fun (node, place) => gateFault? node (children place).length

/-- The first name among the edges between two places. -/
def firstName? (parent child : Nat) : Option Wording :=
  ((edges.filter (isBetween order parent child)).filterMap (·.name)).head?

/-- A tree of all nodes in order, over their children, with the names of its named edges. -/
structure Places (children : Nat → List Nat) (tree : LinearTree β) : Prop where
  length : tree.length = order.length
  carried : ∀ (place : Nat) node, order[place]? = some node →
    ∃ made, tree.nodes[place]? = some made ∧ Carries node made ∧ made.children = (children place).map Int.ofNat
  once : (tree.edgeNames.map (·.1)).Nodup
  named : ∀ key name, (key, name) ∈ tree.edgeNames ↔ ∃ parent child : Nat, key = ((parent : Int), (child : Int)) ∧
    IsParent order edges parent child ∧ firstName? order edges parent child = some name

/-- A tree, if every gate has as many children as it has to have; else the faults of those that have not. -/
def ComesTo (children : Nat → List Nat) : Except (List (ArityFault α)) (LinearTree β) → Prop
  | .ok tree => arityFaults order children = [] ∧ Places order edges children tree
  | .error faults => faults ≠ [] ∧ faults = arityFaults order children

def readName (edge : Edge α) : Option (EdgeKey × Wording) := do
  let name ← edge.name
  let parent ← place? edge.source order
  let child ← place? edge.target order
  return (((parent : Int), (child : Int)), name)

end Outcome

private theorem fault?_treeNode (node : Node α β) (children : List Nat) :
    fault? (treeNode node children) = gateFault? node children.length := by
  obtain ⟨id, body⟩ := node
  cases body with
  | box event => rfl
  | gate kind =>
    cases kind <;> rcases children with _ | ⟨first, _ | ⟨second, _ | ⟨third, rest⟩⟩⟩ <;>
      simp [treeNode, fault?, gateFault?, Gate.arity]

variable [DecidableEq α] {order : List (Node α β)} {edges : List (Edge α)}

private theorem edgeNames_eq (joined : List (Edge α)) : edgeNames order joined =
    ((joined.filterMap (readName order)).map (·.1)).eraseDups.filterMap fun key =>
      ((joined.filterMap (readName order)).lookup key).map (key, ·) := rfl

theorem nodup_edgeNames (joined : List (Edge α)) : ((edgeNames order joined).map (·.1)).Nodup := by
  rw [edgeNames_eq, List.map_filterMap]
  apply (nodup_eraseDups _).filterMap
  intro left right key leftFound rightFound
  rw [Option.mem_def, Option.map_map, Option.map_eq_some_iff] at leftFound rightFound
  obtain ⟨_, _, rfl⟩ := leftFound
  obtain ⟨_, _, same⟩ := rightFound
  exact same.symm

private theorem mem_edgeNames_iff {joined : List (Edge α)} {key : EdgeKey} {name : Wording} :
    (key, name) ∈ edgeNames order joined ↔ (joined.filterMap (readName order)).lookup key = some name := by
  simp only [edgeNames_eq, List.mem_filterMap, Option.map_eq_some_iff, List.mem_eraseDups]
  constructor
  · rintro ⟨_, _, _, found, same⟩
    cases same
    exact found
  · intro found
    exact ⟨key, List.mem_map_of_mem (mem_of_lookup found), name, found, rfl⟩

private theorem readName_eq_some_iff (unique : (order.map (·.id)).Nodup) {edge : Edge α} {parent child : Nat}
    {name : Wording} :
    readName order edge = some (((parent : Int), (child : Int)), name) ↔
      edge.name = some name ∧ isBetween order parent child edge = true := by
  simp only [readName, isBetween_iff, ← place?_eq_some_iff unique, Option.bind_eq_bind, Option.bind_eq_some_iff,
    Option.pure_def, Option.some.injEq, Prod.mk.injEq, Nat.cast_inj]
  constructor
  · rintro ⟨_, named, _, source, _, target, ⟨rfl, rfl⟩, rfl⟩
    exact ⟨named, source, target⟩
  · rintro ⟨named, source, target⟩
    exact ⟨name, named, parent, source, child, target, ⟨rfl, rfl⟩, rfl⟩

section Unique

variable (unique : (order.map (·.id)).Nodup)
include unique

private theorem lookup_readName {parent child : Nat} (isParent : IsParent order edges parent child) :
    ((treeEdges order edges).filterMap (readName order)).lookup ((parent : Int), (child : Int)) =
      firstName? order edges parent child := by
  rw [List.lookup_eq_findSome?, ← List.head?_filterMap, List.filterMap_filterMap, treeEdges, List.filterMap_filter,
    firstName?, List.filterMap_filter]
  congr 1
  apply List.filterMap_congr
  intro edge _
  by_cases between : isBetween order parent child edge = true
  · obtain ⟨source, target⟩ := isBetween_iff.mp between
    have joined := (treeParent?_eq_some_iff unique source target).mpr isParent
    cases named : edge.name with
    | none => simp [joined, between, readName, named]
    | some name =>
      have read := (readName_eq_some_iff unique).mpr ⟨named, between⟩
      simp [joined, between, read]
  · rw [if_neg between, ite_eq_right_iff]
    intro _
    rw [Option.bind_eq_none_iff]
    rintro ⟨key, name⟩ read
    rw [ite_eq_right_iff]
    intro same
    obtain rfl : ((parent : Int), (child : Int)) = key := by simpa using same
    exact absurd ((readName_eq_some_iff unique).mp read).2 between

private theorem mem_edgeNames_treeEdges {key : EdgeKey} {name : Wording} :
    (key, name) ∈ edgeNames order (treeEdges order edges) ↔
      ∃ parent child : Nat, key = ((parent : Int), (child : Int)) ∧ IsParent order edges parent child ∧
        firstName? order edges parent child = some name := by
  rw [mem_edgeNames_iff]
  constructor
  · intro found
    obtain ⟨edge, joined, read⟩ := List.mem_filterMap.mp (mem_of_lookup found)
    obtain ⟨parent, child, rfl⟩ : ∃ parent child : Nat, key = ((parent : Int), (child : Int)) := by
      simp only [readName, Option.bind_eq_bind, Option.bind_eq_some_iff, Option.pure_def, Option.some.injEq] at read
      obtain ⟨_, _, parent, _, child, _, same⟩ := read
      exact ⟨parent, child, (congrArg Prod.fst same).symm⟩
    obtain ⟨source, target⟩ := isBetween_iff.mp ((readName_eq_some_iff unique).mp read).2
    have isParent := (treeParent?_eq_some_iff unique source target).mp (mem_treeEdges.mp joined).2
    exact ⟨parent, child, rfl, isParent, (lookup_readName unique isParent).symm.trans found⟩
  · rintro ⟨parent, child, rfl, isParent, first⟩
    exact (lookup_readName unique isParent).trans first

end Unique

def childrenAt (order : List (Node α β)) (edges : List (Edge α)) (place : Nat) : List Nat :=
  match order[place]? with
  | some node => childPlaces order (treeEdges order edges) node.id
  | none => []

theorem childrenAt_eq {place : Nat} {node : Node α β} (found : order[place]? = some node) :
    childrenAt order edges place = childPlaces order (treeEdges order edges) node.id := by
  rw [childrenAt, found]

private theorem arityFaults_childrenAt : (order.map fun node =>
      treeNode node (childPlaces order (treeEdges order edges) node.id)).filterMap fault? =
    arityFaults order (childrenAt order edges) := by
  let made (node : Node α β) := treeNode node (childPlaces order (treeEdges order edges) node.id)
  have placed : (order.map made).filterMap fault? = order.zipIdx.filterMap fun (node, _) => fault? (made node) :=
    calc (order.map made).filterMap fault?
      _ = ((order.zipIdx.map (·.1)).map made).filterMap fault? := by rw [List.zipIdx_map_fst]
      _ = order.zipIdx.filterMap fun (node, _) => fault? (made node) := by
        rw [List.filterMap_map, List.filterMap_map]
        rfl
  refine placed.trans (List.filterMap_congr ?_)
  rintro ⟨node, place⟩ member
  have found := List.mem_zipIdx_iff_getElem?.mp member
  simp only [made, childrenAt_eq found, fault?_treeNode]

theorem comesTo_build (unique : (order.map (·.id)).Nodup) :
    ComesTo order edges (childrenAt order edges) (build order edges) := by
  have faults := build_eq_collected order edges
  rw [collected, arityFaults_childrenAt] at faults
  split at faults
  next none =>
    have built := build_eq_ok faults
    rw [faults]
    refine ⟨none, built.1.length_eq.symm, ?_, ?_, ?_⟩
    · intro place node found
      obtain ⟨below, rfl⟩ := List.getElem?_eq_some_iff.mp found
      have within : place < order.length := below
      obtain ⟨carries, children⟩ := carries_treeNode (built.1.get below (built.1.length_eq ▸ below)).2
      refine ⟨_, List.getElem?_eq_getElem (built.1.length_eq ▸ below), carries, ?_⟩
      rw [childrenAt_eq found]
      exact children
    · exact built.2 ▸ nodup_edgeNames _
    · intro key name
      rw [built.2]
      exact mem_edgeNames_treeEdges unique
  next some =>
    rw [faults]
    exact ⟨some, rfl⟩

/-- Every node that is pointed at has one parent, the same for all orders of the edges, and building comes to the
children of each place. -/
theorem build_exact (order : List (Node α β)) (edges : List (Edge α)) (unique : (order.map (·.id)).Nodup) :
    (∀ child, (∃ other, Points order edges other child) → ∃! parent, IsParent order edges parent child) ∧
    (∀ (child : Nat) target, (order.map (·.id))[child]? = some target → ∀ source,
      treeParent? order edges target = some source ↔
        ∃ parent : Nat, (order.map (·.id))[parent]? = some source ∧ IsParent order edges parent child) ∧
    (∀ others, edges.Perm others → ∀ id, treeParent? order others id = treeParent? order edges id) ∧
    ∃ children : Nat → List Nat, (∀ place < order.length, IsChildList order edges place (children place)) ∧
      ComesTo order edges children (build order edges) := by
  refine ⟨?parent, ?chosen, ?permuted, childrenAt order edges, ?children, comesTo_build unique⟩
  case parent =>
    rintro child ⟨other, points⟩
    obtain ⟨parent, isParent⟩ := exists_isParent points
    exact ⟨parent, isParent, fun other isOther => isOther.eq isParent⟩
  case chosen =>
    intro child target isTarget source
    exact treeParent?_eq_some_iff_exists unique isTarget
  case permuted =>
    intro others permuted id
    exact treeParent?_congr unique (fun edge => permuted.mem_iff.symm) id
  case children =>
    intro place below
    have found := List.getElem?_eq_getElem below
    rw [childrenAt_eq found]
    exact isChildList_childPlaces unique (by simp [found])

/-- A box behind a gate points at the gate's child too. -/
def contestedNodes : List (Node Nat Nat) :=
  [⟨0, .gate .not⟩, ⟨1, .box ⟨"later", [], [], 5⟩⟩, ⟨2, .box ⟨"shared", [], [], 6⟩⟩]

/-- Edges that are parallel, that lead back to their source and that lead out. -/
def contestedEdges : List (Edge Nat) :=
  [⟨1, 2, none, none, some "lost"⟩, ⟨0, 2, none, none, none⟩, ⟨2, 2, none, none, some "loop"⟩,
    ⟨0, 2, none, none, some "kept"⟩, ⟨0, 2, none, none, some "late"⟩, ⟨0, 9, none, none, some "outside"⟩]

theorem build_exact_contested : ∃ tree : LinearTree Nat, tree = ⟨[.not 2, .box 5 [], .box 6 []], [((0, 2), "kept")]⟩ ∧
    build contestedNodes contestedEdges = .ok tree ∧
    (∃! parent, IsParent contestedNodes contestedEdges parent 2) ∧
    ∃ children : Nat → List Nat, (∀ place < 3, IsChildList contestedNodes contestedEdges place (children place)) ∧
      Places contestedNodes contestedEdges children tree := by
  obtain ⟨parents, _, _, children, lists, comes⟩ := build_exact contestedNodes contestedEdges (by decide)
  have built : build contestedNodes contestedEdges = .ok ⟨[.not 2, .box 5 [], .box 6 []], [((0, 2), "kept")]⟩ := by
    cbv
  have points : Points contestedNodes contestedEdges 0 2 := ⟨by decide, ⟨0, 2, none, none, none⟩, by decide, by decide⟩
  rw [built] at comes
  exact ⟨_, rfl, built, parents 2 ⟨0, points⟩, children, lists, comes.2⟩

end Build
end BoxTree
