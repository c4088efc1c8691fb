import BoxTree.Compile.Basic
import BoxTree.Proofs.OrderExact
import BoxTree.Proofs.Regions

/-! Fragments of a graph. No edge leaves or enters a component, so within it paths, cycles and roots are
those of the whole graph, and if it has no linear order then a cycle keeps it from having one. -/

namespace BoxTree

variable {α β : Type}

/-- All arcs among some nodes that no arc leaves or enters. -/
structure PartOf (arcs part : List (α × α)) (inside : α → Prop) : Prop where
  arc_iff : ∀ source target, Arc part source target ↔ Arc arcs source target ∧ inside source
  closed : ∀ source target, Arc arcs source target → (inside source ↔ inside target)

namespace PartOf

variable {arcs part : List (α × α)} {inside : α → Prop} (of : PartOf arcs part inside)
include of

theorem subset : part ⊆ arcs := fun arc member => ((of.arc_iff arc.1 arc.2).mp member).1

theorem inside_of_leads {source target : α} (path : Leads arcs source target) : inside source ↔ inside target := by
  induction path with
  | refl => rfl
  | tail _ arc ih => exact ih.trans (of.closed _ _ arc)

theorem leads {source target : α} (within : inside target) (path : Leads arcs source target) :
    Leads part source target := by
  induction path with
  | refl => exact .refl
  | tail path arc ih =>
    have before := (of.closed _ _ arc).mpr within
    exact (ih before).tail ((of.arc_iff _ _).mpr ⟨arc, before⟩)

private theorem onCycle {id : α} (within : inside id) (cycle : OnCycle arcs id) : OnCycle part id := by
  obtain ⟨last, path, arc⟩ := Relation.TransGen.tail'_iff.mp cycle
  have before := (of.closed _ _ arc).mpr within
  exact Relation.TransGen.tail'_iff.mpr ⟨last, of.leads before path, (of.arc_iff _ _).mpr ⟨arc, before⟩⟩

private theorem joined {left right : α} (within : inside left) (path : Joined arcs left right) :
    Joined part left right := by
  have along : inside right ∧ Joined part left right := by
    induction path with
    | refl => exact ⟨within, .refl⟩
    | tail _ step ih =>
      obtain ⟨within, path⟩ := ih
      rcases step with forth | back
      · exact ⟨(of.closed _ _ forth).mp within, path.tail (.inl ((of.arc_iff _ _).mpr ⟨forth, within⟩))⟩
      · have before := (of.closed _ _ back).mpr within
        exact ⟨before, path.tail (.inr ((of.arc_iff _ _).mpr ⟨back, before⟩))⟩
  exact along.2

theorem touched_iff {id : α} : Touched part id ↔ Touched arcs id ∧ inside id := by
  constructor
  · intro given
    rcases given with ⟨arc, member, rfl | rfl⟩
    · obtain ⟨whole, within⟩ := (of.arc_iff arc.1 arc.2).mp member
      exact ⟨whole.touched_source, within⟩
    · obtain ⟨whole, within⟩ := (of.arc_iff arc.1 arc.2).mp member
      exact ⟨whole.touched_target, (of.closed _ _ whole).mp within⟩
  · intro given
    rcases given with ⟨⟨arc, member, rfl | rfl⟩, within⟩
    · exact ⟨arc, (of.arc_iff arc.1 arc.2).mpr ⟨member, within⟩, .inl rfl⟩
    · exact ⟨arc, (of.arc_iff arc.1 arc.2).mpr ⟨member, (of.closed _ _ member).mpr within⟩, .inr rfl⟩

theorem isRoot_iff {id : α} : IsRoot part id ↔ IsRoot arcs id ∧ inside id := by
  constructor
  · intro isRoot
    obtain ⟨touched, within⟩ := of.touched_iff.mp isRoot.touched
    refine ⟨⟨touched, ?_⟩, within⟩
    intro source arc
    apply isRoot.entered source
    exact (of.arc_iff _ _).mpr ⟨arc, (of.closed _ _ arc).mpr within⟩
  · intro given
    obtain ⟨isRoot, within⟩ := given
    exact ⟨of.touched_iff.mpr ⟨isRoot.touched, within⟩, fun source arc => isRoot.entered source (of.subset arc)⟩

end PartOf

structure Fragment (nodes : List (Node α β)) (edges : List (Edge α)) (first : α) (partNodes : List (Node α β))
    (partEdges : List (Edge α)) : Prop where
  touched : Touched (edges.map (·.arc)) first
  sublist : partNodes.Sublist nodes
  mem_nodes : ∀ id, id ∈ partNodes.map (·.id) ↔ Joined (edges.map (·.arc)) first id
  mem_edges : ∀ edge, edge ∈ partEdges ↔ edge ∈ edges ∧ Joined (edges.map (·.arc)) first edge.source

namespace Fragment

variable {nodes partNodes : List (Node α β)} {edges partEdges : List (Edge α)} {first : α}
  (fragment : Fragment nodes edges first partNodes partEdges)
include fragment

theorem partOf : PartOf (edges.map (·.arc)) (partEdges.map (·.arc)) (Joined (edges.map (·.arc)) first) where
  arc_iff source target := by
    simp only [Arc, List.mem_map, fragment.mem_edges]
    constructor
    · intro given
      obtain ⟨edge, ⟨member, joined⟩, same⟩ := given
      obtain ⟨rfl, rfl⟩ := Prod.mk.inj same
      exact ⟨⟨edge, member, rfl⟩, joined⟩
    · intro given
      obtain ⟨⟨edge, member, same⟩, joined⟩ := given
      obtain ⟨rfl, rfl⟩ := Prod.mk.inj same
      exact ⟨edge, ⟨member, joined⟩, rfl⟩
  closed _ _ arc := ⟨fun joined => joined.trans arc.joined, fun joined => joined.trans arc.joined.symm⟩

theorem unique (unique : (nodes.map (·.id)).Nodup) : (partNodes.map (·.id)).Nodup :=
  unique.sublist (fragment.sublist.map _)

theorem touched_iff {id : α} : Touched (partEdges.map (·.arc)) id ↔ Joined (edges.map (·.arc)) first id := by
  rw [fragment.partOf.touched_iff]
  exact ⟨And.right, fun joined => ⟨fragment.touched.joined joined, joined⟩⟩

theorem closed : ∀ edge ∈ partEdges, edge.source ∈ partNodes.map (·.id) ∧ edge.target ∈ partNodes.map (·.id) := by
  intro edge member
  obtain ⟨listed, joined⟩ := (fragment.mem_edges edge).mp member
  have arc : Arc (edges.map (·.arc)) edge.source edge.target := List.mem_map.mpr ⟨edge, listed, rfl⟩
  exact ⟨(fragment.mem_nodes _).mpr joined, (fragment.mem_nodes _).mpr (joined.trans arc.joined)⟩

theorem joined {left right : α} (leftTouched : Touched (partEdges.map (·.arc)) left)
    (rightTouched : Touched (partEdges.map (·.arc)) right) : Joined (partEdges.map (·.arc)) left right := by
  have within := fragment.touched_iff.mp leftTouched
  exact fragment.partOf.joined within (within.symm.trans (fragment.touched_iff.mp rightTouched))

theorem rebase {id : α} (within : Joined (edges.map (·.arc)) first id) :
    Fragment nodes edges id partNodes partEdges where
  touched := fragment.touched.joined within
  sublist := fragment.sublist
  mem_nodes other := (fragment.mem_nodes other).trans ⟨within.symm.trans, within.trans⟩
  mem_edges edge := (fragment.mem_edges edge).trans (and_congr_right fun _ => ⟨within.symm.trans, within.trans⟩)

theorem acyclic_iff :
    Acyclic (partEdges.map (·.arc)) ↔
      ∀ id, Joined (edges.map (·.arc)) first id → ¬ OnCycle (edges.map (·.arc)) id := by
  constructor
  · exact fun acyclic id within cycle => acyclic id (fragment.partOf.onCycle within cycle)
  · exact fun none id cycle => none id (fragment.touched_iff.mp cycle.touched) (cycle.mono fragment.partOf.subset)

end Fragment

theorem arcs_closed {nodes : List (Node α β)} {edges : List (Edge α)}
    (closed : ∀ edge ∈ edges, edge.source ∈ nodes.map (·.id) ∧ edge.target ∈ nodes.map (·.id)) :
    ∀ arc ∈ edges.map (·.arc), arc.1 ∈ nodes.map (·.id) ∧ arc.2 ∈ nodes.map (·.id) := by
  intro arc member
  obtain ⟨edge, listed, rfl⟩ := List.mem_map.mp member
  exact closed edge listed

variable [DecidableEq α]

/-- Where all connected nodes hang together, only a cycle leaves some of them without a place. -/
theorem Links.exists_cycle_error {links : Links α} {order : QueueOrder} (unique : links.ids.Nodup)
    (joined : ∀ left right, Touched links.arcs left → Touched links.arcs right → Joined links.arcs left right)
    (cyclic : ¬ Acyclic links.arcs) :
    ∃ waiting witness, (links.linearize order).error = some (.cycle waiting witness) := by
  have exact := links.exact_linearize unique order
  by_cases rooted : ∃ root, IsRoot links.arcs root
  · obtain ⟨root, isRoot⟩ := rooted
    obtain ⟨id, cycle⟩ : ∃ id, OnCycle links.arcs id := by simpa [Acyclic] using cyclic
    obtain ⟨waiting, witness, reported, _⟩ :=
      exact.stuck ⟨root, id, isRoot, joined root id isRoot.touched cycle.touched, cycle⟩
    exact ⟨waiting, witness, reported⟩
  · obtain ⟨waiting, witness, reported, _⟩ := exact.rootless cyclic fun id isRoot => rooted ⟨id, isRoot⟩
    exact ⟨waiting, witness, reported⟩

namespace Compile

variable {nodes : List (Node α β)} {edges : List (Edge α)}
  (closed : ∀ edge ∈ edges, edge.source ∈ nodes.map (·.id) ∧ edge.target ∈ nodes.map (·.id))
include closed

theorem fragment_of_mem {part : List (Node α β) × List (Edge α)} (member : part ∈ fragments nodes edges) :
    ∃ first, Fragment nodes edges first part.1 part.2 := by
  obtain ⟨ids, listed, rfl⟩ := List.mem_map.mp member
  obtain ⟨sublist, first, touched, exact⟩ := component_exact (arcs_closed closed) listed
  refine ⟨first, touched, List.filter_sublist, ?_, ?_⟩
  · intro id
    simp only [List.mem_map, List.mem_filter, decide_eq_true_iff, ← exact]
    constructor
    · intro given
      obtain ⟨node, ⟨_, inside⟩, rfl⟩ := given
      exact inside
    · intro inside
      obtain ⟨node, found, rfl⟩ := List.mem_map.mp (sublist.subset inside)
      exact ⟨node, ⟨found, inside⟩, rfl⟩
  · intro edge
    rw [List.mem_filter, decide_eq_true_iff, exact]

theorem exists_fragment {id : α} (touched : Touched (edges.map (·.arc)) id) :
    ∃ part ∈ fragments nodes edges, id ∈ part.1.map (·.id) := by
  obtain ⟨ids, listed, inside⟩ := exists_component (arcs_closed closed) touched
  refine ⟨_, List.mem_map_of_mem listed, ?_⟩
  obtain ⟨node, found, rfl⟩ := List.mem_map.mp ((component_exact (arcs_closed closed) listed).1.subset inside)
  exact List.mem_map_of_mem (List.mem_filter.mpr ⟨found, decide_eq_true inside⟩)

theorem fragments_apart :
    (fragments nodes edges).Pairwise fun left right =>
      ∀ first ∈ left.1.map (·.id), ∀ second ∈ right.1.map (·.id), ¬ Joined (edges.map (·.arc)) first second := by
  apply List.pairwise_map.mpr
  apply (components_apart (arcs_closed closed)).imp
  intro leftIds rightIds apart first left second right
  obtain ⟨firstNode, firstKept, rfl⟩ := List.mem_map.mp left
  obtain ⟨secondNode, secondKept, rfl⟩ := List.mem_map.mp right
  exact apart _ (of_decide_eq_true (List.mem_filter.mp firstKept).2) _
    (of_decide_eq_true (List.mem_filter.mp secondKept).2)

/-- Where all nodes hang together there is one component. -/
theorem fragments_eq_singleton {first : α} (touched : Touched (edges.map (·.arc)) first)
    (joined : ∀ node ∈ nodes, Joined (edges.map (·.arc)) first node.id) : fragments nodes edges = [(nodes, edges)] := by
  obtain ⟨arc, listed, _⟩ := touched
  cases nodes with
  | nil =>
    have outside := (arcs_closed closed arc listed).1
    cases outside
  | cons head rest =>
    let ids := head.id :: rest.map (·.id)
    have near : ∀ id ∈ rest.map (·.id), id ∈ region ids (bothWays (edges.map (·.arc))) head.id := by
      intro id member
      obtain ⟨node, inRest, rfl⟩ := List.mem_map.mp member
      apply (mem_near (arcs_closed closed) List.mem_cons_self).mpr
      exact (joined head List.mem_cons_self).symm.trans (joined node (List.mem_cons_of_mem _ inRest))
    have grouped : groups ids (edges.map (·.arc)) ids = [ids] := by
      rw [groups, List.filter_eq_self.mpr, List.filter_eq_nil_iff.mpr, groups]
      · exact fun id member => by simpa using near id member
      · exact fun id member => decide_eq_true (near id member)
    have whole : components ids (edges.map (·.arc)) = [ids] := by
      rw [components, grouped, List.filter_eq_self]
      intro group member
      rw [List.mem_singleton.mp member, List.any_eq_true]
      exact ⟨arc, listed, decide_eq_true (arcs_closed closed arc listed).1⟩
    rw [fragments]
    change (components ids (edges.map (·.arc))).map _ = _
    rw [whole, List.map_singleton, List.filter_eq_self.mpr, List.filter_eq_self.mpr]
    · exact fun edge member => decide_eq_true (closed edge member).1
    · exact fun node member => decide_eq_true (List.mem_map_of_mem member)

end Compile
end BoxTree
