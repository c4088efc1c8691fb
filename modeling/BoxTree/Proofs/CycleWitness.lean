import BoxTree.Proofs.CycleSearch
import BoxTree.Proofs.OrderExact
import Mathlib

/-! Every reported cycle comes with a witness: nodes that the arcs really lead around, all of them behind
the nodes that wait. -/

namespace BoxTree

variable {α β : Type} [DecidableEq α]

namespace Links

variable {links : Links α} {order : QueueOrder}

private theorem mem_backward {arc : α × α} : arc ∈ links.backward ↔ Arc links.arcs arc.2 arc.1 := by
  simp only [backward, List.mem_flatMap, List.mem_map, mem_children]
  constructor
  · intro given
    obtain ⟨id, _, child, arc, rfl⟩ := given
    exact arc
  · intro arc
    exact ⟨_, mem_ids_of_touched arc.touched_source, _, arc, rfl⟩

/-- Behind nodes of which one waits on a cycle, the search finds one. -/
theorem isCycle_cycleBehind {nodes : List α} {id : α} (member : id ∈ nodes) (blocked : ¬ Grounded links.arcs id) :
    IsCycle links.arcs (links.cycleBehind nodes) ∧
      ∀ other ∈ links.cycleBehind nodes, ∃ source ∈ nodes, Leads links.arcs other source := by
  unfold cycleBehind
  split
  next cycle found => exact isCycle_of_findCycle? (fun _ => mem_backward) found
  next none =>
    have nothing : Clear links.arcs (· ∈ []) := ⟨by simp, by simp⟩
    exact False.elim (blocked (grounded_of_findCycle? (fun _ => mem_backward) nothing none id member))

end Links

/-- Whenever a cycle is reported, its witness is a cycle of the graph in the direction of its edges. The
order holds none of its nodes, and each of them is one of the waiting nodes or leads to one. -/
theorem linearize_cycle_witness (nodes : List (Node α β)) (edges : List (Edge α)) (queueOrder : QueueOrder)
    (unique : (nodes.map (·.id)).Nodup)
    (closed : ∀ edge ∈ edges, edge.source ∈ nodes.map (·.id) ∧ edge.target ∈ nodes.map (·.id)) :
    ∃ result, linearize nodes edges queueOrder = .ok result ∧
      ∀ waiting witness, result.error = some (.cycle waiting witness) →
        IsCycle (edges.map (·.arc)) witness ∧ (∀ id ∈ witness, id ∉ result.order) ∧
          ∀ id ∈ witness, ∃ waits ∈ waiting, Leads (edges.map (·.arc)) id waits := by
  obtain ⟨links, ids, arcs, found⟩ := linearize_eq_ok nodes edges queueOrder closed
  have unique : links.ids.Nodup := ids ▸ unique
  have exact := links.exact_linearize unique queueOrder
  refine ⟨_, found, ?_⟩
  intro waiting witness reported
  obtain ⟨rfl, nonempty, waits⟩ := links.waiting_of_error unique reported
  obtain ⟨id, member⟩ := List.exists_mem_of_ne_nil waiting nonempty
  obtain ⟨ancestor, path, onCycle⟩ := exact.cycle_behind (waits id member).1 (waits id member).2
  obtain ⟨isCycle, behind⟩ := links.isCycle_cycleBehind member fun grounded => grounded ancestor path onCycle
  rw [← arcs]
  refine ⟨isCycle, ?_, behind⟩
  intro other inside ordered
  exact exact.parentsFirst.not_onCycle ordered (isCycle.onCycle inside)

/-- A root that leads into a loop: the loop is found from the node that waits behind the root. -/
theorem linearize_cycle_witness_loop :
    IsCycle [(0, 1), (1, 2), (2, 1)] [2, 1] ∧ (∀ id ∈ [2, 1], id ∉ [0]) ∧
      ∀ id ∈ [2, 1], ∃ waits ∈ [1], Leads [(0, 1), (1, 2), (2, 1)] id waits := by
  obtain ⟨result, found, holds⟩ := linearize_cycle_witness
    ([⟨0, .gate .not⟩, ⟨1, .gate .not⟩, ⟨2, .gate .not⟩] : List (Node Nat Unit))
    [⟨0, 1, none, none, none⟩, ⟨1, 2, none, none, none⟩, ⟨2, 1, none, none, none⟩] .parentCount (by decide) (by decide)
  have run : linearize ([⟨0, .gate .not⟩, ⟨1, .gate .not⟩, ⟨2, .gate .not⟩] : List (Node Nat Unit))
      [⟨0, 1, none, none, none⟩, ⟨1, 2, none, none, none⟩, ⟨2, 1, none, none, none⟩] .parentCount =
      .ok ⟨[0], [0], [], some (.cycle [1] [2, 1])⟩ := by cbv
  obtain rfl := Except.ok.inj (run.symm.trans found)
  exact holds [1] [2, 1] rfl

end BoxTree
