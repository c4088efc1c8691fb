import BoxTree.Proofs.BreadthFirst
import BoxTree.Proofs.CompileSteps
import BoxTree.Proofs.TreeValidity
import BoxTree.Tree.Compose

/-! Graphs of trees. Ids stand for positions one to one, so the graph of a tree has the edges of the tree,
and all of it hangs together below the root. -/

namespace BoxTree

variable {α β : Type}

namespace LinearTree

def nodeAt? (tree : LinearTree β) (position : Int) : Option (TreeNode β) :=
  if 0 ≤ position then tree.nodes[position.toNat]? else none

def childrenAt (tree : LinearTree β) (position : Int) : List Int :=
  ((tree.nodeAt? position).map (·.children)).getD []

/-- All positions in breadth-first order from the root, siblings in child order. -/
def breadthFirst (tree : LinearTree β) : List Int := levelOrder tree.childrenAt 0 tree.length

/-- No node lists a child twice. -/
def ListsOnce (tree : LinearTree β) : Prop := ∀ node ∈ tree.nodes, node.children.Nodup

instance (tree : LinearTree β) : Decidable tree.ListsOnce :=
  inferInstanceAs (Decidable (∀ node ∈ tree.nodes, node.children.Nodup))

theorem ListsOnce.nodup_childrenAt {tree : LinearTree β} (once : tree.ListsOnce) (position : Int) :
    (tree.childrenAt position).Nodup := by
  unfold childrenAt nodeAt?
  split
  · cases found : tree.nodes[position.toNat]? with
    | none => exact .nil
    | some node => exact once node (List.mem_of_getElem? found)
  · exact .nil

/-- The edges that leave a position lead to its children, in child order. -/
theorem targets_links (tree : LinearTree β) (position : Int) :
    targets tree.links position = tree.childrenAt position := by
  have shifted (nodes : List (TreeNode β)) (start : Nat) :
      targets ((nodes.zipIdx start).map fun entry =>
          entry.1.children.map fun child => ((entry.2 : Int), child)).flatten position =
        if start ≤ position then ((nodes[(position - start).toNat]?).map (·.children)).getD [] else [] := by
    induction nodes generalizing start with
    | nil => simp [targets]
    | cons node rest ih =>
      have own : targets (node.children.map fun child => ((start : Int), child)) position =
          if (start : Int) = position then node.children else [] := by
        simp only [targets, List.filter_map, List.map_map, Function.comp_def]
        split
        next same => simp [same]
        next other => simp [other]
      have split (left right : List (Int × Int)) :
          targets (left ++ right) position = targets left position ++ targets right position := by
        simp only [targets, List.filter_append, List.map_append]
      rw [List.zipIdx_cons, List.map_cons, List.flatten_cons, split, own, ih]
      rcases Int.lt_trichotomy start position with before | rfl | after
      · have next : (position - start).toNat = (position - (start + 1 : Nat)).toNat + 1 := by omega
        rw [if_neg (by omega), if_pos (by omega), if_pos (by omega), next]
        rfl
      · rw [if_pos rfl, if_neg (by omega), if_pos (by omega)]
        simp
      · rw [if_neg (by omega), if_neg (by omega), if_neg (by omega)]
        rfl
  rw [childrenAt, nodeAt?]
  refine (shifted tree.nodes 0).trans ?_
  simp only [Int.natCast_zero, Int.sub_zero]
  split <;> rfl

theorem ListsOnce.nodup_links {tree : LinearTree β} (once : tree.ListsOnce) : tree.links.Nodup := by
  apply List.nodup_iff_count_le_one.mpr
  intro edge
  have children : (targets tree.links edge.1).Nodup := targets_links tree edge.1 ▸ once.nodup_childrenAt edge.1
  have own : (tree.links.filter fun link => link.1 = edge.1).count edge = tree.links.count edge := by
    rw [List.count_filter]
    exact decide_eq_true rfl
  calc tree.links.count edge
    _ = (tree.links.filter fun link => link.1 = edge.1).count edge := own.symm
    _ ≤ (targets tree.links edge.1).count edge.2 := List.count_le_count_map
    _ ≤ 1 := List.nodup_iff_count_le_one.mp children edge.2

section ToGraph

variable (idOf : Int → α) (tree : LinearTree β)

@[simp] theorem graphNode_id (id : α) (node : TreeNode β) : (graphNode id node).id = id := by
  cases node <;> rfl

private theorem ids_toGraph : (tree.toGraph idOf).ids = tree.positions.map idOf := by
  simp only [Graph.ids, toGraph, positions, List.map_map, Function.comp_def, graphNode_id]
  rw [length, List.range_eq_range', ← List.zipIdx_map_snd 0 tree.nodes, List.map_map]
  rfl

theorem arcs_toGraph : (tree.toGraph idOf).edges.map (·.arc) = tree.links.map (Prod.map idOf idOf) := by
  rw [toGraph, List.map_map]
  rfl

end ToGraph

theorem nodup_positions (tree : LinearTree β) : tree.positions.Nodup :=
  List.nodup_range.map fun _ _ same => Int.ofNat.inj same

theorem source_mem {tree : LinearTree β} {link : Int × Int} (member : link ∈ tree.links) : link.1 ∈ tree.positions :=
  mem_positions.mpr (parent_inside member)

section WellFormed

variable {tree : LinearTree β} (wellFormed : tree.WellFormed)
include wellFormed

theorem WellFormed.target_mem {link : Int × Int} (member : link ∈ tree.links) : link.2 ∈ tree.positions :=
  mem_positions.mpr ⟨(wellFormed.inside link member).lower, (wellFormed.inside link member).upper⟩

theorem WellFormed.leads_of_mem {position : Int} (member : position ∈ tree.positions) :
    Leads tree.links 0 position := by
  obtain ⟨lower, upper⟩ := mem_positions.mp member
  obtain ⟨index, rfl⟩ := Int.eq_ofNat_of_zero_le lower
  exact wellFormed.reached index (Int.ofNat_lt.mp upper)

private theorem WellFormed.touched_of_mem (large : 2 ≤ tree.length) {position : Int}
    (member : position ∈ tree.positions) :
    Touched tree.links position := by
  by_cases root : position = 0
  · have path := wellFormed.reached 1 large
    rcases Relation.ReflTransGen.cases_head path with same | ⟨_, arc, _⟩
    · cases same
    · exact root ▸ arc.touched_source
  · rcases Relation.ReflTransGen.cases_tail (wellFormed.leads_of_mem member) with same | ⟨_, _, arc⟩
    · exact False.elim (root same)
    · exact arc.touched_target

variable {idOf : Int → α} (injective : Function.Injective idOf)

omit wellFormed in
theorem exists_of_arc_map {source target : α} (arc : Arc (tree.links.map (Prod.map idOf idOf)) source target) :
    ∃ parent child, (parent, child) ∈ tree.links ∧ idOf parent = source ∧ idOf child = target := by
  obtain ⟨⟨parent, child⟩, member, same⟩ := List.mem_map.mp arc
  obtain ⟨rfl, rfl⟩ := Prod.mk.inj same
  exact ⟨parent, child, member, rfl, rfl⟩

theorem WellFormed.leads_map {position : Int} (member : position ∈ tree.positions) :
    Leads (tree.links.map (Prod.map idOf idOf)) (idOf 0) (idOf position) :=
  Relation.ReflTransGen.lift idOf (fun _ _ arc => List.mem_map_of_mem arc) _ _ (wellFormed.leads_of_mem member)

include injective in
theorem WellFormed.branching : Branching (tree.links.map (Prod.map idOf idOf)) (idOf 0) where
  entered source arc := by
    obtain ⟨parent, child, member, _, same⟩ := exists_of_arc_map arc
    exact (wellFormed.inside _ member).notRoot (injective same)
  single left right id leftArc rightArc := by
    obtain ⟨first, child, firstMember, rfl, rfl⟩ := exists_of_arc_map leftArc
    obtain ⟨second, other, secondMember, rfl, same⟩ := exists_of_arc_map rightArc
    exact congrArg idOf (wellFormed.single _ firstMember _ secondMember (injective same).symm)
  reached id touched := by
    obtain ⟨arc, listed, ends⟩ := touched
    obtain ⟨edge, member, rfl⟩ := List.mem_map.mp listed
    rcases ends with rfl | rfl
    · exact wellFormed.leads_map (source_mem member)
    · exact wellFormed.leads_map (wellFormed.target_mem member)

end WellFormed

section Links

variable [DecidableEq α] {tree : LinearTree β} {idOf : Int → α} {links : Links α}

private theorem children_eq (once : tree.ListsOnce) (injective : Function.Injective idOf)
    (arcs : links.arcs = tree.links.map (Prod.map idOf idOf)) (position : Int) :
    links.children (idOf position) = (tree.childrenAt position).map idOf := by
  have below : targets links.arcs (idOf position) = (targets tree.links position).map idOf := by
    rw [arcs, targets, targets, List.filter_map, List.map_map, List.map_map]
    simp only [Function.comp_def, Prod.map_fst, Prod.map_snd, injective.eq_iff]
  rw [targets_links] at below
  exact (congrArg List.eraseDups below).trans (eraseDups_eq_self ((once.nodup_childrenAt position).map injective))

end Links

section Compile

variable {tree : LinearTree β} (wellFormed : tree.WellFormed) {idOf : Int → α}
  (injective : Function.Injective idOf)

include injective in
theorem nodup_ids_toGraph : (tree.toGraph idOf).ids.Nodup := by
  rw [ids_toGraph]
  exact (nodup_positions tree).map injective

include wellFormed

private theorem WellFormed.closed_toGraph : ∀ edge ∈ (tree.toGraph idOf).edges,
    edge.source ∈ (tree.toGraph idOf).nodes.map (·.id) ∧ edge.target ∈ (tree.toGraph idOf).nodes.map (·.id) := by
  intro edge member
  obtain ⟨link, listed, rfl⟩ := List.mem_map.mp member
  change idOf link.1 ∈ (tree.toGraph idOf).ids ∧ idOf link.2 ∈ (tree.toGraph idOf).ids
  rw [ids_toGraph]
  exact ⟨List.mem_map_of_mem (source_mem listed), List.mem_map_of_mem (wellFormed.target_mem listed)⟩

private theorem WellFormed.dangling?_toGraph [DecidableEq α] : ∀ edge ∈ (tree.toGraph idOf).edges,
    edge.dangling? (tree.toGraph idOf).nodes = none := by
  intro edge member
  have closed := wellFormed.closed_toGraph edge member
  obtain ⟨link, listed, rfl⟩ := List.mem_map.mp member
  exact dangling?_of_link closed.1 closed.2 rfl rfl

theorem WellFormed.resolved_toGraph [DecidableEq α] : (tree.toGraph idOf).resolved = (tree.toGraph idOf).edges := by
  apply List.filter_eq_self.mpr
  intro edge member
  rw [wellFormed.dangling?_toGraph edge member]
  rfl

theorem WellFormed.dangling_toGraph [DecidableEq α] : (tree.toGraph idOf).dangling = [] := by
  apply List.filterMap_eq_nil_iff.mpr
  intro edge member
  rw [wellFormed.dangling?_toGraph edge member]
  rfl

variable (large : 2 ≤ tree.length)
include large

theorem WellFormed.touched_toGraph {id : α} :
    Touched (tree.links.map (Prod.map idOf idOf)) id ↔ id ∈ (tree.toGraph idOf).ids := by
  rw [ids_toGraph, List.mem_map]
  constructor
  · rintro ⟨arc, listed, ends⟩
    obtain ⟨edge, member, rfl⟩ := List.mem_map.mp listed
    rcases ends with rfl | rfl
    · exact ⟨edge.1, source_mem member, rfl⟩
    · exact ⟨edge.2, wellFormed.target_mem member, rfl⟩
  · rintro ⟨position, member, rfl⟩
    obtain ⟨edge, listed, ends⟩ := wellFormed.touched_of_mem large member
    exact ⟨Prod.map idOf idOf edge, List.mem_map_of_mem listed, ends.imp (congrArg idOf) (congrArg idOf)⟩

theorem WellFormed.touched_root : Touched (tree.links.map (Prod.map idOf idOf)) (idOf 0) := by
  rw [wellFormed.touched_toGraph large, ids_toGraph]
  exact List.mem_map_of_mem (mem_positions.mpr ⟨Int.le_refl 0, by omega⟩)

variable [DecidableEq α]

theorem WellFormed.fragments_toGraph : Compile.fragments (tree.toGraph idOf).nodes (tree.toGraph idOf).edges =
    [((tree.toGraph idOf).nodes, (tree.toGraph idOf).edges)] := by
  have root : Touched ((tree.toGraph idOf).edges.map (·.arc)) (idOf 0) := by
    rw [arcs_toGraph]
    exact wellFormed.touched_root large
  apply Compile.fragments_eq_singleton wellFormed.closed_toGraph root
  · intro node member
    have listed : node.id ∈ (tree.toGraph idOf).ids := List.mem_map_of_mem member
    rw [ids_toGraph] at listed
    obtain ⟨position, inside, same⟩ := List.mem_map.mp listed
    rw [arcs_toGraph, ← same]
    exact (wellFormed.leads_map inside).joined

include injective

/-- The graph of a tree is ordered breadth-first, whatever the queue order. -/
theorem WellFormed.linearize_toGraph (once : tree.ListsOnce) (queueOrder : QueueOrder) :
    ∃ result, linearize (tree.toGraph idOf).nodes (tree.toGraph idOf).edges queueOrder = .ok result ∧
      result.order = tree.breadthFirst.map idOf ∧ result.order.Perm (tree.toGraph idOf).ids ∧
      result.roots = [idOf 0] ∧ result.error = none := by
  obtain ⟨links, ids, arcs, found⟩ :=
    linearize_eq_ok (tree.toGraph idOf).nodes (tree.toGraph idOf).edges queueOrder wellFormed.closed_toGraph
  rw [arcs_toGraph] at arcs
  have unique : links.ids.Nodup := ids ▸ nodup_ids_toGraph injective
  have branching : Branching links.arcs (idOf 0) := arcs ▸ wellFormed.branching injective
  have touched : Touched links.arcs (idOf 0) := arcs ▸ wellFormed.touched_root large
  have exact := links.exact_linearize unique queueOrder
  have complete := exact.complete.mpr branching.acyclic
  have whole : (links.linearize queueOrder).order.Perm (tree.toGraph idOf).ids := by
    apply (List.perm_ext_iff_of_nodup exact.once (nodup_ids_toGraph injective)).mpr
    intro id
    rw [exact.members, ← wellFormed.touched_toGraph large, arcs]
    exact and_iff_left (arcs ▸ branching.acyclic.grounded id)
  refine ⟨_, found, ?_, whole, ?_, complete⟩
  · have size : (links.linearize queueOrder).order.length = tree.length := by
      rw [whole.length_eq, ids_toGraph, positions]
      simp only [List.length_map, List.length_range]
    rw [Links.order_linearize_eq unique branching touched queueOrder, size]
    exact levelOrder_map (children_eq once injective arcs)
  · exact (Links.roots_linearize complete).trans (Links.roots_eq unique branching touched)

omit injective [DecidableEq α] in
theorem WellFormed.perm_breadthFirst (once : tree.ListsOnce) : tree.breadthFirst.Perm tree.positions := by
  obtain ⟨result, _, order, whole, _⟩ := wellFormed.linearize_toGraph Function.injective_id large once .insertion
  rwa [order, ids_toGraph, List.map_id, List.map_id] at whole

end Compile
end LinearTree
end BoxTree
