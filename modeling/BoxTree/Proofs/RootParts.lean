import BoxTree.Compile.Basic
import BoxTree.Proofs.Lookups
import BoxTree.Proofs.TreeBuild

/-! The part of a linear order that one root reaches. The root comes first, edges lead forward, and every
other node is entered from within, so the part makes a tree whose edges can all be looked up. -/

namespace BoxTree

variable {α β : Type} [DecidableEq α]

private theorem ParentsFirst.forward {arcs : List (α × α)} {order : List α} (sorted : ParentsFirst arcs order)
    (once : order.Nodup) : Forward arcs order := by
  apply List.pairwise_iff_getElem.mpr
  intro earlier later below below' less arc
  have back := sorted.idxOf_lt (List.getElem_mem below) arc
  rw [once.idxOf_getElem, once.idxOf_getElem] at back
  exact Nat.lt_asymm less back

private theorem Forward.idxOf_lt {arcs : List (α × α)} {order : List α} (forward : Forward arcs order)
    {source target : α}
    (left : source ∈ order) (right : target ∈ order) (arc : Arc arcs source target) (other : source ≠ target) :
    order.idxOf source < order.idxOf target :=
  forward.lt (List.getElem?_idxOf left) (List.getElem?_idxOf right) arc other

/-- A linear order of all connected nodes of a fragment whose edges can be used. -/
structure Ordered (nodes : List (Node α β)) (edges : List (Edge α)) (order : List α) : Prop where
  unique : (nodes.map (·.id)).Nodup
  usable : ∀ edge ∈ edges, Usable nodes edge
  once : order.Nodup
  parentsFirst : ParentsFirst (edges.map (·.arc)) order
  members : ∀ id, id ∈ order ↔ Touched (edges.map (·.arc)) id

namespace Compile

/-- The part of an order that a root reaches. -/
def part (edges : List (Edge α)) (order : List α) (root : α) : List α :=
  order.filter (· ∈ region order (edges.map (·.arc)) root)

def partNodes (nodes : List (Node α β)) (edges : List (Edge α)) (order : List α) (root : α) : List (Node α β) :=
  (part edges order root).filterMap (findNode? nodes)

/-- The edges that leave the part of a root. -/
def leaving (edges : List (Edge α)) (order : List α) (root : α) : List (Edge α) :=
  edges.filter fun edge => edge.source ∈ region order (edges.map (·.arc)) root

end Compile

namespace Ordered

open Compile

variable {nodes : List (Node α β)} {edges : List (Edge α)} {order : List α} {root id : α}
  (ordered : Ordered nodes edges order)
include ordered

theorem mem_nodes (member : id ∈ order) : id ∈ nodes.map (·.id) := by
  obtain ⟨arc, listed, ends⟩ := (ordered.members id).mp member
  obtain ⟨edge, found, rfl⟩ := List.mem_map.mp listed
  rcases ends with rfl | rfl
  · exact (ordered.usable edge found).source
  · exact (ordered.usable edge found).target

theorem not_onCycle : ¬ OnCycle (edges.map (·.arc)) id := fun cycle =>
  ordered.parentsFirst.not_onCycle ((ordered.members id).mpr cycle.touched) cycle

variable (member : root ∈ order)
include member

private theorem mem_region : id ∈ region order (edges.map (·.arc)) root ↔ Leads (edges.map (·.arc)) root id :=
  BoxTree.mem_region (fun arc listed => (ordered.members arc.2).mpr ⟨arc, listed, .inr rfl⟩) member

theorem mem_part : id ∈ part edges order root ↔ Leads (edges.map (·.arc)) root id := by
  rw [part, List.mem_filter, decide_eq_true_iff, ordered.mem_region member]
  constructor
  · exact And.right
  · intro path
    refine ⟨?_, path⟩
    apply (ordered.members id).mpr
    exact ((ordered.members root).mp member).joined path.joined

theorem mem_leaving {edge : Edge α} :
    edge ∈ leaving edges order root ↔ edge ∈ edges ∧ Leads (edges.map (·.arc)) root edge.source := by
  rw [leaving, List.mem_filter, decide_eq_true_iff, ordered.mem_region member]

theorem part_eq_self (whole : ∀ id ∈ order, Leads (edges.map (·.arc)) root id) : part edges order root = order := by
  apply List.filter_eq_self.mpr
  intro id listed
  exact decide_eq_true ((ordered.mem_region member).mpr (whole id listed))

theorem leaving_eq_self (whole : ∀ id ∈ order, Leads (edges.map (·.arc)) root id) :
    leaving edges order root = edges := by
  apply List.filter_eq_self.mpr
  intro edge listed
  have arc : Arc (edges.map (·.arc)) edge.source edge.target := List.mem_map.mpr ⟨edge, listed, rfl⟩
  exact decide_eq_true ((ordered.mem_region member).mpr (whole _ ((ordered.members _).mpr arc.touched_source)))

omit member in
theorem once_part (root : α) : (part edges order root).Nodup := ordered.once.filter _

omit member in
private theorem forward_part (root : α) : Forward (edges.map (·.arc)) (part edges order root) :=
  (ordered.parentsFirst.forward ordered.once).filter _

omit member in
private theorem forall₂_partNodes (root : α) :
    List.Forall₂ (fun id node => node ∈ nodes ∧ node.id = id) (part edges order root)
      (partNodes nodes edges order root) := by
  have known : ∀ id ∈ part edges order root, id ∈ nodes.map (·.id) :=
    fun id kept => ordered.mem_nodes (List.mem_filter.mp kept).1
  rw [partNodes]
  generalize part edges order root = kept at known ⊢
  induction kept with
  | nil => exact .nil
  | cons id rest ih =>
    obtain ⟨first, known⟩ := List.forall_mem_cons.mp known
    obtain ⟨node, found⟩ := exists_findNode? first
    rw [List.filterMap_cons_some found]
    exact .cons ((findNode?_eq_some_iff ordered.unique).mp found) (ih known)

omit member in
theorem map_id_partNodes (root : α) : (partNodes nodes edges order root).map (·.id) = part edges order root := by
  have same := (ordered.forall₂_partNodes root).imp fun _ _ found => found.2.symm
  rw [← List.forall₂_map_right_iff, List.forall₂_eq_eq_eq] at same
  exact same.symm

omit member in
theorem partNodes_subset (root : α) : partNodes nodes edges order root ⊆ nodes := by
  intro node listed
  obtain ⟨_, _, found⟩ := List.mem_filterMap.mp listed
  exact ((findNode?_eq_some_iff ordered.unique).mp found).1

omit member in
theorem findNode?_partNodes (kept : id ∈ part edges order root) :
    findNode? (partNodes nodes edges order root) id = findNode? nodes id := by
  apply findNode?_eq_of_subset ordered.unique _ (ordered.partNodes_subset root)
  · exact (ordered.map_id_partNodes root).symm ▸ kept
  · exact ordered.map_id_partNodes root ▸ ordered.once_part root

theorem forward_edge {edge : Edge α} (listed : edge ∈ edges) (source : edge.source ∈ part edges order root) :
    edge.target ∈ part edges order root ∧
      (part edges order root).idxOf edge.source < (part edges order root).idxOf edge.target := by
  have arc : Arc (edges.map (·.arc)) edge.source edge.target := List.mem_map.mpr ⟨edge, listed, rfl⟩
  have target := (ordered.mem_part member).mpr (((ordered.mem_part member).mp source).tail arc)
  have other : edge.source ≠ edge.target := fun loop => ordered.not_onCycle (.single (loop ▸ arc))
  exact ⟨target, (ordered.forward_part root).idxOf_lt source target arc other⟩

theorem isInner_leaving {edge : Edge α} (leaves : edge ∈ leaving edges order root) :
    Build.isInner (partNodes nodes edges order root) edge = true := by
  obtain ⟨listed, path⟩ := (ordered.mem_leaving member).mp leaves
  have source := (ordered.mem_part member).mpr path
  obtain ⟨target, ahead⟩ := ordered.forward_edge member listed source
  rw [Build.isInner_iff, ordered.map_id_partNodes]
  exact ⟨source, target, fun loop => absurd ahead (loop ▸ Nat.lt_irrefl _)⟩

theorem usable_leaving : ∀ edge ∈ leaving edges order root, Usable (partNodes nodes edges order root) edge := by
  intro edge leaves
  obtain ⟨listed, path⟩ := (ordered.mem_leaving member).mp leaves
  have arc : Arc (edges.map (·.arc)) edge.source edge.target := List.mem_map.mpr ⟨edge, listed, rfl⟩
  exact (ordered.usable edge listed).transfer (ordered.findNode?_partNodes ((ordered.mem_part member).mpr path))
    (ordered.findNode?_partNodes ((ordered.mem_part member).mpr (path.tail arc)))

/-- The root is the first of its part: the parents of any other node come before that node. -/
theorem head?_part : (part edges order root).head? = some root := by
  have forward := ordered.forward_part root
  have inside : root ∈ part edges order root := (ordered.mem_part member).mpr .refl
  have reached (id : α) (kept : id ∈ part edges order root) : Leads (edges.map (·.arc)) root id :=
    (ordered.mem_part member).mp kept
  have kept (id : α) (path : Leads (edges.map (·.arc)) root id) : id ∈ part edges order root :=
    (ordered.mem_part member).mpr path
  cases listed : part edges order root with
  | nil => simp [listed] at inside
  | cons first rest =>
    rw [listed] at forward reached kept
    rcases Relation.ReflTransGen.cases_tail (reached first List.mem_cons_self) with same | ⟨parent, path, arc⟩
    · rw [List.head?_cons, same]
    · rcases List.mem_cons.mp (kept parent path) with rfl | later
      · exact False.elim (ordered.not_onCycle (.single arc))
      · exact False.elim (List.rel_of_pairwise_cons forward later arc)

omit member in
theorem mem_part_of_mem {node : Node α β} (listed : node ∈ partNodes nodes edges order root) :
    node.id ∈ part edges order root :=
  ordered.map_id_partNodes root ▸ List.mem_map_of_mem listed

private theorem ne_root_of_mem_tail {node : Node α β} (listed : node ∈ (partNodes nodes edges order root).tail) :
    node.id ≠ root := by
  have head := ordered.head?_part member
  have once := ordered.once_part root
  have later : node.id ∈ (part edges order root).tail := by
    rw [← ordered.map_id_partNodes, ← List.map_tail]
    exact List.mem_map_of_mem listed
  obtain ⟨rest, whole⟩ := List.head?_eq_some_iff.mp head
  rw [whole] at once later
  exact fun same => (List.nodup_cons.mp once).1 (same ▸ later)

/-- The nodes that a root reaches make a tree: the last edge on the way to a node enters it from within. -/
theorem sorted : Sorted (partNodes nodes edges order root) (leaving edges order root) where
  unique := ordered.map_id_partNodes root ▸ ordered.once_part root
  forward := by
    rw [ordered.map_id_partNodes]
    apply (ordered.forward_part root).imp
    intro earlier later ahead arc
    apply ahead
    exact (List.filter_sublist.map _).subset arc
  entered node listed := by
    have kept := ordered.mem_part_of_mem (List.mem_of_mem_tail listed)
    rcases Relation.ReflTransGen.cases_tail ((ordered.mem_part member).mp kept) with same | ⟨parent, path, arc⟩
    · exact False.elim (ordered.ne_root_of_mem_tail member listed same)
    · obtain ⟨edge, found, same⟩ := List.mem_map.mp arc
      obtain ⟨rfl, target⟩ := Prod.mk.inj same
      have leaves := (ordered.mem_leaving member).mpr ⟨found, path⟩
      exact ⟨edge, leaves, ordered.isInner_leaving member leaves, target⟩

end Ordered
end BoxTree
