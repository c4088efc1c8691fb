import BoxTree.Proofs.BuildExact
import BoxTree.Proofs.CompileSteps

/-! Gates that keep their children. A box never takes a child away from a gate, so where no node stands below two gates,
a gate that points at as many nodes as it needs has all of them in every tree. -/

namespace BoxTree

variable {α β : Type} [DecidableEq α]

namespace Build

variable {order : List (Node α β)} {edges : List (Edge α)} (unique : (order.map (·.id)).Nodup)
include unique

private theorem rank_fst {node : Node α β} (listed : node ∈ order) : (rank order node.id).1 = node.isGate := by
  rw [rank, (findNode?_eq_some_iff unique).mpr ⟨listed, rfl⟩]
  rfl

/-- A node is the child of a gate that points at it, unless another gate does too. -/
theorem treeParent?_of_gate {id : α} {edge : Edge α} (enters : Enters order edges id edge) {gate : Node α β}
    (listed : gate ∈ order) (isGate : gate.isGate = true) (isSource : gate.id = edge.source)
    (only : ∀ other ∈ order, other.isGate = true → ∀ rival, Enters order edges id rival → rival.source = other.id →
      other.id = gate.id) : treeParent? order edges id = some gate.id := by
  obtain ⟨_, found, ⟨best, bestEnters, rfl⟩, highest⟩ := exists_treeParent enters
  obtain ⟨parent, isParent, same⟩ := List.mem_map.mp (isInner_iff.mp bestEnters.inner).1
  cases parentGate : parent.isGate with
  | true => rw [found, ← same, only parent isParent parentGate best bestEnters same.symm]
  | false =>
    have gateRank : (rank order edge.source).1 = true := by rw [← isSource, rank_fst unique listed, isGate]
    have boxRank : (rank order best.source).1 = false := by rw [← same, rank_fst unique isParent, parentGate]
    have beaten := highest edge enters
    simp [above, gateRank, boxRank] at beaten

/-- A node that is the parent of all its targets has them as children, by their first edges. -/
theorem childPlaces_of_kept {id : α} (within : ∀ edge ∈ edges, edge.source = id → edge.target ∈ order.map (·.id))
    (kept : ∀ edge ∈ edges, edge.source = id → treeParent? order edges edge.target = some id) :
    childPlaces order (treeEdges order edges) id =
      ((edges.filter (·.source = id)).map (·.target)).eraseDups.map (order.map (·.id)).idxOf := by
  have own : (treeEdges order edges).filter (·.source = id) = edges.filter (·.source = id) := by
    rw [treeEdges, List.filter_filter]
    apply List.filter_congr
    intro edge member
    by_cases source : edge.source = id
    · simp [source, kept edge member source]
    · simp [source]
  have target {edge : Edge α} (member : edge ∈ edges.filter (·.source = id)) : edge.target ∈ order.map (·.id) := by
    obtain ⟨member, source⟩ := List.mem_filter.mp member
    exact within edge member (of_decide_eq_true source)
  have placed : (edges.filter (·.source = id)).filterMap (fun edge => place? edge.target order) =
      ((edges.filter (·.source = id)).map (·.target)).map (order.map (·.id)).idxOf := by
    rw [List.map_map, ← List.filterMap_eq_map]
    apply List.filterMap_congr
    intro edge member
    exact (place?_eq_some_iff unique).mpr (List.getElem?_idxOf (target member))
  rw [childPlaces, own, placed]
  apply eraseDups_map_of_injOn
  intro left leftMember right _ same
  obtain ⟨edge, member, rfl⟩ := List.mem_map.mp leftMember
  exact (List.idxOf_inj (target member)).mp same

end Build

namespace Graph

variable (graph : Graph α β)

/-- The nodes that a node points at, each once, in the order of the first edges to them. -/
def successors (id : α) : List α := ((graph.resolved.filter (·.source = id)).map (·.target)).eraseDups

/-- No cycles, as many successors for each connected gate as it needs, and no node below two gates. -/
structure WellGated : Prop where
  unique : graph.ids.Nodup
  acyclic : Acyclic graph.arcs
  filled : ∀ node ∈ graph.nodes, ∀ kind, node.body = .gate kind → Touched graph.arcs node.id →
    (graph.successors node.id).length = kind.arity
  single : ∀ left ∈ graph.nodes, ∀ right ∈ graph.nodes, left.isGate = true → right.isGate = true →
    ∀ id, Arc graph.arcs left.id id → Arc graph.arcs right.id id → left.id = right.id

variable {graph}

private theorem mem_successors {id target : α} : target ∈ graph.successors id ↔ Arc graph.arcs id target := by
  simp only [successors, List.mem_eraseDups, List.mem_map, List.mem_filter, decide_eq_true_iff, Arc, Edge.arc, Prod.mk.injEq]
  constructor
  · rintro ⟨edge, ⟨member, source⟩, isTarget⟩
    exact ⟨edge, member, source, isTarget⟩
  · rintro ⟨edge, member, source, isTarget⟩
    exact ⟨edge, ⟨member, source⟩, isTarget⟩

end Graph

namespace Compile

section Part

variable {graph : Graph α β} {part : List (Node α β) × List (Edge α)} {first root : α} {order : List α}
  (gated : graph.WellGated) (fragment : Fragment graph.nodes graph.resolved first part.1 part.2)
  (ordered : Ordered part.1 part.2 order) (member : root ∈ order)
  (listed : part ∈ fragments graph.nodes graph.resolved)
include gated fragment ordered member

private theorem treeParent?_of_leaving {gate : Node α β} (isNode : gate ∈ partNodes part.1 part.2 order root)
    (isGate : gate.isGate = true) {edge : Edge α} (leaves : edge ∈ leaving part.2 order root)
    (source : edge.source = gate.id) :
    Build.treeParent? (partNodes part.1 part.2 order root) (leaving part.2 order root) edge.target = some gate.id := by
  have nodes {node : Node α β} (isNode : node ∈ partNodes part.1 part.2 order root) : node ∈ graph.nodes :=
    fragment.sublist.subset (ordered.partNodes_subset root isNode)
  have arc {edge : Edge α} (leaves : edge ∈ leaving part.2 order root) : Arc graph.arcs edge.source edge.target :=
    List.mem_map.mpr ⟨edge, ((mem_leaving_iff fragment ordered member).mp leaves).1, rfl⟩
  apply Build.treeParent?_of_gate (ordered.sorted member).unique ⟨leaves, ordered.isInner_leaving member leaves, rfl⟩
    isNode isGate source.symm
  intro other isOther otherGate rival enters same
  apply gated.single other (nodes isOther) gate (nodes isNode) otherGate isGate edge.target
  · exact same ▸ enters.target ▸ arc enters.member
  · exact source ▸ arc leaves

include listed

/-- A gate's children in the part of a root are all its successors. -/
theorem childPlaces_of_gate {gate : Node α β} (isNode : gate ∈ partNodes part.1 part.2 order root)
    (isGate : gate.isGate = true) :
    Build.childPlaces (partNodes part.1 part.2 order root)
        (Build.treeEdges (partNodes part.1 part.2 order root) (leaving part.2 order root)) gate.id =
      (graph.successors gate.id).map (Compile.part part.2 order root).idxOf := by
  have inside := ordered.mem_part_of_mem isNode
  have own : (leaving part.2 order root).filter (·.source = gate.id) = graph.resolved.filter (·.source = gate.id) := by
    rw [leaving_eq_filter fragment ordered member listed, List.filter_filter]
    apply List.filter_congr
    intro edge _
    by_cases source : edge.source = gate.id
    · simp [source, inside]
    · simp [source]
  rw [Build.childPlaces_of_kept (ordered.sorted member).unique, own, ordered.map_id_partNodes, Graph.successors]
  · intro edge leaves _
    exact (Build.isInner_iff.mp (ordered.isInner_leaving member leaves)).2.1
  · exact fun edge => treeParent?_of_leaving gated fragment ordered member isNode isGate

private theorem arityFaults_part : Build.arityFaults (partNodes part.1 part.2 order root)
    (Build.childrenAt (partNodes part.1 part.2 order root) (leaving part.2 order root)) = [] := by
  rw [Build.arityFaults, List.filterMap_eq_nil_iff]
  rintro ⟨node, place⟩ member'
  have found := List.mem_zipIdx_iff_getElem?.mp member'
  have isNode := List.mem_of_getElem? found
  cases body : node.body with
  | box event => simp [Build.gateFault?, body]
  | gate kind =>
    have isGate : node.isGate = true := by simp [Node.isGate, body]
    have touched : Touched graph.arcs node.id := by
      have inOrder := (List.mem_filter.mp (ordered.mem_part_of_mem isNode)).1
      exact (fragment.partOf.touched_iff.mp ((ordered.members node.id).mp inOrder)).1
    have filled := gated.filled node (fragment.sublist.subset (ordered.partNodes_subset root isNode)) kind body touched
    have count : (Build.childrenAt (partNodes part.1 part.2 order root) (leaving part.2 order root) place).length =
        kind.arity := by
      rw [Build.childrenAt_eq found, childPlaces_of_gate gated fragment ordered member listed isNode isGate,
        List.length_map, filled]
    simp [Build.gateFault?, body, count]

private theorem exists_places : ∃ tree, build (partNodes part.1 part.2 order root)
    (leaving part.2 order root) = .ok tree ∧
    Build.Places (partNodes part.1 part.2 order root) (leaving part.2 order root)
      (Build.childrenAt (partNodes part.1 part.2 order root) (leaving part.2 order root)) tree := by
  have comes : Build.ComesTo (partNodes part.1 part.2 order root) (leaving part.2 order root) _ _ :=
    Build.comesTo_build (ordered.sorted member).unique
  cases built : build (partNodes part.1 part.2 order root) (leaving part.2 order root) with
  | ok tree =>
    rw [built] at comes
    exact ⟨tree, rfl, comes.2⟩
  | error faults =>
    rw [built] at comes
    exact absurd (comes.2.trans (arityFaults_part gated fragment ordered member listed)) comes.1

end Part
end Compile

/-- A gate stands over all its successors, in the order of the first edges to them. -/
structure CompiledTree.Keeps (graph : Graph α β) (compiled : CompiledTree α β) (gate : Node α β) : Prop where
  inside : ∀ id ∈ graph.successors gate.id, id ∈ compiled.order
  children : ∃ made, compiled.tree.nodes[compiled.order.idxOf gate.id]? = some made ∧ Carries gate made ∧
    made.children = (graph.successors gate.id).map fun id => (compiled.order.idxOf id : Int)

namespace Graph.WellGated

open Compile

variable {graph : Graph α β} {settings : CompilerSettings} {part : List (Node α β) × List (Edge α)} {first : α}
  (gated : graph.WellGated) (fragment : Fragment graph.nodes graph.resolved first part.1 part.2)
  (listed : part ∈ fragments graph.nodes graph.resolved)
include gated fragment listed

private theorem keeps {order : List α} (ordered : Ordered part.1 part.2 order) {root : α} (member : root ∈ order)
    {compiled : CompiledTree α β} (of : RootOutcome.Of part.1 part.2 settings order root (.compiled compiled))
    {gate : Node α β} (isNode : gate ∈ graph.nodes) (isGate : gate.isGate = true) (kept : gate.id ∈ compiled.order) :
    compiled.Keeps graph gate := by
  obtain ⟨tree, again, places⟩ := exists_places gated fragment ordered member listed
  cases of with
  | compiled built bound =>
    obtain rfl := Except.ok.inj (built.symm.trans again)
    have placed := List.getElem?_idxOf kept
    rw [← ordered.map_id_partNodes root, List.getElem?_map, Option.map_eq_some_iff] at placed
    obtain ⟨node, found, same⟩ := placed
    have isPart := List.mem_of_getElem? found
    obtain rfl : node = gate := List.inj_on_of_nodup_map gated.unique
      (fragment.sublist.subset (ordered.partNodes_subset root isPart)) isNode same
    obtain ⟨made, isMade, carries, children⟩ := places.carried _ node found
    rw [Build.childrenAt_eq found, childPlaces_of_gate gated fragment ordered member listed isPart isGate,
      List.map_map] at children
    refine ⟨?_, made, ordered.map_id_partNodes root ▸ isMade, carries, children⟩
    intro id succeeds
    obtain ⟨edge, resolved, same⟩ := List.mem_map.mp (Graph.mem_successors.mp succeeds)
    obtain ⟨source, rfl⟩ := Prod.mk.inj same
    have leaves := (mem_leaving_iff fragment ordered member).mpr ⟨resolved, source ▸ kept⟩
    exact ordered.map_id_partNodes root ▸ (Build.isInner_iff.mp (ordered.isInner_leaving member leaves)).2.1

private theorem errors_eq_nil {outcome : ComponentOutcome α β} (of : outcome.Of part.1 part.2 settings) :
    outcome.errors = [] := by
  cases of with
  | rejected _ _ cyclic =>
    exact absurd (fun id cycle => gated.acyclic id (cycle.mono fragment.partOf.subset)) cyclic
  | @rooted result outcomes _ _ ordered _ roots compiled =>
    have none : outcomes.flatMap (·.faults) = [] := by
      rw [List.flatMap_eq_nil_iff]
      intro outcome made
      obtain ⟨root, isRoot, of⟩ := exists_of_forall₂_right compiled made
      have member := (ordered.members root).mpr ((roots root).mp isRoot).touched
      obtain ⟨tree, built, _⟩ := exists_places gated fragment ordered member listed
      cases of with
      | compiled => rfl
      | rejected failed => cases failed.symm.trans built
    rw [ComponentOutcome.errors, none]
    rfl

end Graph.WellGated

/-- Where no node is below two gates and each gate points at as many nodes as it needs, compiling reports nothing, and
each gate of a tree stands over all its successors. -/
theorem compile_keeps_gates (graph : Graph α β) (settings : CompilerSettings) (gated : graph.WellGated) :
    ∃ compilation, graph.compile settings = .ok compilation ∧ compilation.errors = [] ∧
      ∀ compiled ∈ compilation.trees, ∀ gate ∈ graph.nodes, gate.isGate = true → gate.id ∈ compiled.order →
        compiled.Keeps graph gate := by
  obtain ⟨compilation, outcomes, found, collects⟩ := graph.exists_compile gated.unique settings
  refine ⟨compilation, found, ?errors, ?keeps⟩
  case errors =>
    rw [collects.errors, List.flatMap_eq_nil_iff]
    intro outcome listed
    obtain ⟨part, isPart, ⟨first, fragment⟩, of⟩ := exists_of_forall₂_right collects.components listed
    exact gated.errors_eq_nil fragment isPart of
  case keeps =>
    intro compiled member gate isNode isGate kept
    obtain ⟨part, isPart, first, order, root, fragment, ordered, isRoot, of⟩ :=
      Graph.exists_root_of_mem_trees collects.components (collects.trees ▸ member)
    exact gated.keeps fragment isPart ordered ((ordered.members root).mpr isRoot.touched) of isNode isGate kept

/-- Two roots share a gate. A child of the gate, which it points at twice, is also below a box that comes later. -/
def rivalledGate : Graph Nat Nat where
  nodes := [⟨0, .box ⟨"first", [], [], 5⟩⟩, ⟨1, .box ⟨"second", [], [], 6⟩⟩, ⟨2, .gate .and⟩,
    ⟨3, .box ⟨"rival", [], [], 7⟩⟩, ⟨4, .box ⟨"shared", [], [], 8⟩⟩]
  edges := [⟨0, 2, none, none, none⟩, ⟨2, 4, none, none, none⟩, ⟨2, 3, none, none, none⟩, ⟨2, 4, none, none, none⟩,
    ⟨3, 4, none, none, none⟩, ⟨1, 2, none, none, none⟩]

private theorem wellGated_rivalledGate : rivalledGate.WellGated where
  unique := by decide
  acyclic id cycle := by
    have ascends : ∀ arc ∈ rivalledGate.arcs, arc.1 < arc.2 := by decide
    have less : id < id := Relation.transGen_minimal (fun source target arc => ascends (source, target) arc) id id cycle
    exact Nat.lt_irrefl id less
  filled node member kind isGate _ := by
    have two : (rivalledGate.successors 2).length = 2 := by decide
    simp only [rivalledGate, List.mem_cons, List.not_mem_nil, or_false] at member
    rcases member with rfl | rfl | rfl | rfl | rfl <;> cases isGate
    exact two
  single left leftMember right rightMember leftGate rightGate _ _ _ := by
    have only : ∀ node ∈ rivalledGate.nodes, node.isGate = true → node.id = 2 := by decide
    rw [only left leftMember leftGate, only right rightMember rightGate]

theorem compile_keeps_gates_rivalledGate :
    ∃ compilation, rivalledGate.compile {} = .ok compilation ∧ compilation.errors = [] ∧
      compilation.trees.map (fun compiled => (compiled.order, compiled.tree.nodes)) =
        [([0, 2, 3, 4], [.box 5 [1], .and 3 2, .box 7 [], .box 8 []]),
          ([1, 2, 3, 4], [.box 6 [1], .and 3 2, .box 7 [], .box 8 []])] ∧
      ∀ compiled ∈ compilation.trees, 2 ∈ compiled.order → compiled.Keeps rivalledGate ⟨2, .gate .and⟩ := by
  obtain ⟨compilation, found, faultless, keeps⟩ := compile_keeps_gates rivalledGate {} wellGated_rivalledGate
  have run : (rivalledGate.compile {}).toOption.map (·.trees.map fun compiled => (compiled.order, compiled.tree.nodes)) =
      some [([0, 2, 3, 4], [.box 5 [1], .and 3 2, .box 7 [], .box 8 []]),
        ([1, 2, 3, 4], [.box 6 [1], .and 3 2, .box 7 [], .box 8 []])] := by cbv
  rw [found] at run
  have isNode : ⟨2, .gate .and⟩ ∈ rivalledGate.nodes := by simp [rivalledGate]
  exact ⟨compilation, found, faultless, Option.some.inj run,
    fun compiled member kept => keeps compiled member ⟨2, .gate .and⟩ isNode rfl kept⟩

end BoxTree
