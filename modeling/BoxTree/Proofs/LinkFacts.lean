import BoxTree.Graph.Order
import BoxTree.Proofs.Duplicates
import BoxTree.Proofs.Paths

/-! Parents, children, roots and connected nodes, said in terms of arcs. -/

namespace BoxTree

variable {α β : Type}

theorem Links.mem_ids_of_touched {links : Links α} {id : α} (touched : Touched links.arcs id) : id ∈ links.ids := by
  obtain ⟨arc, member, rfl | rfl⟩ := touched
  · exact (links.closed arc member).1
  · exact (links.closed arc member).2

variable [DecidableEq α]

namespace Links

variable (links : Links α)

@[simp] theorem mem_parents {parent id : α} : parent ∈ links.parents id ↔ Arc links.arcs parent id := by
  simp [parents, Arc]

@[simp] theorem mem_children {id child : α} : child ∈ links.children id ↔ Arc links.arcs id child := by
  simp [children, Arc]

theorem nodup_children (id : α) : (links.children id).Nodup := nodup_eraseDups _

variable {links}

private theorem isDisconnected_iff {id : α} : links.isDisconnected id = true ↔ ¬ Touched links.arcs id := by
  simp only [isDisconnected, Bool.and_eq_true, List.isEmpty_iff, List.eq_nil_iff_forall_not_mem, mem_parents,
    mem_children]
  constructor
  · rintro ⟨parents, children⟩ ⟨arc, member, rfl | rfl⟩
    · exact children arc.2 member
    · exact parents arc.1 member
  · intro apart
    exact ⟨fun _ arc => apart arc.touched_target, fun _ arc => apart arc.touched_source⟩

private theorem isRoot_iff {id : α} : links.isRoot id = true ↔ IsRoot links.arcs id := by
  simp only [isRoot, Bool.and_eq_true, Bool.not_eq_true', List.isEmpty_iff, List.eq_nil_iff_forall_not_mem,
    List.isEmpty_eq_false_iff_exists_mem, mem_parents, mem_children]
  constructor
  · intro given
    obtain ⟨entered, child, arc⟩ := given
    exact ⟨arc.touched_source, entered⟩
  · intro given
    rcases given with ⟨⟨arc, member, rfl | rfl⟩, entered⟩
    · exact ⟨entered, arc.2, member⟩
    · exact False.elim (entered arc.1 member)

@[simp] theorem mem_roots {id : α} : id ∈ links.roots ↔ IsRoot links.arcs id := by
  rw [roots, List.mem_filter, isRoot_iff]
  exact ⟨And.right, fun isRoot => ⟨mem_ids_of_touched isRoot.touched, isRoot⟩⟩

@[simp] theorem mem_connected {id : α} : id ∈ links.connected ↔ Touched links.arcs id := by
  rw [connected, List.mem_filter, Bool.not_eq_true', ← Bool.not_eq_true, isDisconnected_iff, not_not]
  exact ⟨And.right, fun touched => ⟨mem_ids_of_touched touched, touched⟩⟩

theorem connected_sublist : links.connected.Sublist links.ids := List.filter_sublist

theorem isReady_iff {reached : List α} {id : α} :
    links.isReady reached id = true ↔ ∀ parent, Arc links.arcs parent id → parent ∈ reached := by
  simp [isReady]

theorem ofFragment_eq_ok (nodes : List (Node α β)) (edges : List (Edge α))
    (closed : ∀ edge ∈ edges, edge.source ∈ nodes.map (·.id) ∧ edge.target ∈ nodes.map (·.id)) :
    ∃ links, ofFragment nodes edges = .ok links ∧ links.ids = nodes.map (·.id) ∧
      links.arcs = edges.map (·.arc) := by
  have none : (edges.map (·.arc)).findSome? (strayEnd? (nodes.map (·.id))) = none := by
    rw [List.findSome?_eq_none_iff]
    intro arc member
    obtain ⟨edge, edgeMember, rfl⟩ := List.mem_map.mp member
    exact strayEnd?_eq_none_iff.mpr (closed edge edgeMember)
  refine ⟨⟨nodes.map (·.id), edges.map (·.arc), ?_⟩, ?_, rfl, rfl⟩
  · intro arc member
    exact strayEnd?_eq_none_iff.mp (List.findSome?_eq_none_iff.mp none arc member)
  · unfold ofFragment
    dsimp only
    split
    next id found => rw [none] at found; cases found
    next => rfl

end Links
end BoxTree
