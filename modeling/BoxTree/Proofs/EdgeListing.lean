import BoxTree.Proofs.VariableTraces
import Mathlib

/-! The order in which dependency edges are listed with their variables: node by node, and only the edges that leave
one node in the order in which they were given. -/

namespace BoxTree

section Grouped

variable {γ δ : Type} [DecidableEq δ] {key : γ → δ} {keys : List δ}

/-- Two lists are equal if both are sorted by the places of their keys and hold the same items under each key. -/
theorem eq_of_pairwise_idxOf_le {left right : List γ} (within : ∀ item ∈ left, key item ∈ keys)
    (leftSorted : left.Pairwise fun first second => keys.idxOf (key first) ≤ keys.idxOf (key second))
    (rightSorted : right.Pairwise fun first second => keys.idxOf (key first) ≤ keys.idxOf (key second))
    (same : ∀ one, left.filter (key · = one) = right.filter (key · = one)) : left = right := by
  induction left generalizing right with
  | nil =>
    cases right with
    | nil => rfl
    | cons other right => simpa using same (key other)
  | cons item left ih =>
    cases right with
    | nil => simpa using same (key item)
    | cons other right =>
      have members (one : γ) : one ∈ item :: left ↔ one ∈ other :: right := by
        have filtered := congrArg (one ∈ ·) (same (key one))
        simpa using filtered
      have least {first one : γ} {rest : List γ} (member : one ∈ first :: rest)
          (sorted : (first :: rest).Pairwise fun first second => keys.idxOf (key first) ≤ keys.idxOf (key second)) :
          keys.idxOf (key first) ≤ keys.idxOf (key one) := by
        rcases List.mem_cons.mp member with rfl | later
        · exact Nat.le_refl _
        · exact (List.pairwise_cons.mp sorted).1 one later
      have level : keys.idxOf (key item) = keys.idxOf (key other) := Nat.le_antisymm
        (least ((members other).mpr List.mem_cons_self) leftSorted)
        (least ((members item).mp List.mem_cons_self) rightSorted)
      have sameKey : key item = key other := (List.idxOf_inj (within item List.mem_cons_self)).mp level
      have heads := same (key other)
      simp only [List.filter_cons, sameKey, decide_true, if_true, List.cons.injEq] at heads
      obtain ⟨rfl, _⟩ := heads
      have inside (one : γ) (member : one ∈ left) : key one ∈ keys := within one (List.mem_cons_of_mem _ member)
      refine congrArg (item :: ·) (ih inside leftSorted.of_cons rightSorted.of_cons fun one => ?_)
      have tails := same one
      simp only [List.filter_cons] at tails
      split at tails
      · exact (List.cons.inj tails).2
      · exact tails

private theorem filter_flatMap_filter (once : keys.Nodup) {items : List γ} (within : ∀ item ∈ items, key item ∈ keys)
    (one : δ) :
    (keys.flatMap fun one => items.filter fun item => key item = one).filter (key · = one) =
      items.filter (key · = one) := by
  rw [List.filter_flatMap]
  have other {another : δ} (differ : another ≠ one) :
      (items.filter fun item => key item = another).filter (key · = one) = [] := by
    refine List.filter_eq_nil_iff.mpr fun item member => ?_
    rw [of_decide_eq_true (List.mem_filter.mp member).2, decide_eq_true_iff]
    exact differ
  by_cases member : one ∈ keys
  · obtain ⟨before, after, rfl⟩ := List.append_of_mem member
    obtain ⟨absent, _⟩ := List.nodup_cons.mp (List.perm_middle.nodup_iff.mp once)
    rw [List.mem_append, not_or] at absent
    have apart {rest : List δ} (absent : one ∉ rest) : rest.flatMap (fun another =>
        (items.filter fun item => key item = another).filter (key · = one)) = [] :=
      List.flatMap_eq_nil_iff.mpr fun another member => other (ne_of_mem_of_not_mem member absent)
    rw [List.flatMap_append, List.flatMap_cons, apart absent.1, apart absent.2, List.filter_filter]
    simp
  · have none : items.filter (key · = one) = [] := by
      refine List.filter_eq_nil_iff.mpr fun item listed => ?_
      rw [decide_eq_true_iff]
      exact ne_of_mem_of_not_mem (within item listed) member
    rw [none]
    exact List.flatMap_eq_nil_iff.mpr fun another listed => other (ne_of_mem_of_not_mem listed member)

end Grouped

variable {α β : Type} [DecidableEq α]

/-- Edges whose sources come as they stand in an order. -/
def SourcesAscend (order : List (Node α β)) (edges : List (Edge α)) : Prop :=
  edges.Pairwise fun left right => (order.map (·.id)).idxOf left.source ≤ (order.map (·.id)).idxOf right.source

/-- The dependency edges between two nodes of an order are listed, each as often as it was given: node by node, those
that leave one node as they were given, each with the quantifier and the object type of its ends. -/
structure Bindings.Lists (order : List (Node α β)) (edges : List (Edge α)) (bindings : Bindings α) : Prop where
  all : (bindings.edges.map (·.edge)).Perm (Binding.dependencyEdges order edges)
  nodeByNode : SourcesAscend order (bindings.edges.map (·.edge))
  leaving : ∀ id, (bindings.edges.map (·.edge)).filter (·.source = id) =
    (Binding.dependencyEdges order edges).filter (·.source = id)
  typed : ∀ shown ∈ bindings.edges, shown.edge.dependencyType order = .ok (some shown.dependency) ∧
    shown.edge.objectType? = some shown.objectType

namespace Ledger

variable {order : List (Node α β)} {edges : List (Edge α)} {ids : List α} {names : List Wording} {ledger : Ledger α}
  {bindings : Bindings α}

private theorem Shows.edges_eq (shows' : ledger.Shows ids names bindings) :
    bindings.edges.map (·.edge) = ledger.assignments.map (·.edge) := by
  rw [← List.forall₂_eq_eq_eq, List.forall₂_map_left_iff, List.forall₂_map_right_iff]
  exact List.Forall₂.flip (shows'.edges.imp fun _ _ given => given.1)

private theorem Visited.lists (visited : ledger.Visited order (visits order edges)) (unique : (order.map (·.id)).Nodup)
    (shows' : ledger.Shows ids names bindings) : bindings.Lists order edges := by
  have listed : bindings.edges.map (·.edge) = visits order edges := shows'.edges_eq.trans visited.edges
  refine ⟨listed ▸ visits_perm unique, listed ▸ visits_sorted unique, ?_, ?_⟩
  · intro id
    rw [listed, visits_eq_flatMap]
    exact filter_flatMap_filter unique (fun edge member => (mem_dependencyEdges.mp member).2.2.1) id
  · intro shown member
    obtain ⟨assigned, isAssigned, edge, dependency, _, known, found, type⟩ :=
      exists_of_forall₂_right shows'.edges member
    rw [edge, dependency, ← type]
    exact ⟨(visited.chosen assigned isAssigned).typed, (visited.fits isAssigned found).1⟩

end Ledger

/-- Propagation lists exactly the dependency edges between two nodes of an order, sorted by source. They are listed in
the order in which they were given exactly if it already was an order of the sources. -/
theorem propagate_lists (order : List (Node α β)) (edges : List (Edge α)) (width : Int)
    (unique : (order.map (·.id)).Nodup)
    (resolved : ∀ edge ∈ Binding.dependencyEdges order edges, edge.dangling? order = none) :
    ∃ bindings, propagate order edges width = .ok bindings ∧ bindings.Lists order edges ∧
      (bindings.edges.map (·.edge) = Binding.dependencyEdges order edges ↔
        SourcesAscend order (Binding.dependencyEdges order edges)) := by
  obtain ⟨ledger, settled⟩ := exists_settle fun edge member => usable_of_dangling? (resolved edge member)
  obtain ⟨bindings, found, shows'⟩ := Ledger.exists_shows width unique settled
  have lists := (Ledger.visited_settle settled).lists unique shows'
  refine ⟨bindings, found, lists, fun same => same ▸ lists.nodeByNode, fun ascend => ?_⟩
  have within (edge : Edge α) (member : edge ∈ bindings.edges.map (·.edge)) : edge.source ∈ order.map (·.id) :=
    (Ledger.mem_dependencyEdges.mp (lists.all.subset member)).2.2.1
  exact eq_of_pairwise_idxOf_le within lists.nodeByNode ascend lists.leaving

/-- Three boxes in a row, each depending on the one before, with the later edge given first. -/
def lateSource : List (Node Nat Nat) × List (Edge Nat) :=
  let box (id : Nat) : Node Nat Nat := ⟨id, .box ⟨"event", [("one", ⟨"one", false, ["order"]⟩)], [], id⟩⟩
  let depends (source target : Nat) : Edge Nat := ⟨source, target, some ⟨"one", "order"⟩, some ⟨"one", "order"⟩, none⟩
  ([box 0, box 1, box 2], [depends 1 2, depends 0 1])

theorem propagate_lists_lateSource :
    ∃ bindings, propagate lateSource.1 lateSource.2 2 = .ok bindings ∧ bindings.Lists lateSource.1 lateSource.2 ∧
      bindings.edges.map (fun shown => (shown.edge.arc, shown.name)) =
        ([((0, 1), "or_0"), ((1, 2), "or_0")] : List ((Nat × Nat) × Wording)) := by
  obtain ⟨bindings, found, lists, _⟩ := propagate_lists lateSource.1 lateSource.2 2 (by decide) (by decide)
  have run : (propagate lateSource.1 lateSource.2 2).toOption.map
      (·.edges.map fun shown => (shown.edge.arc, shown.name)) =
      some ([((0, 1), "or_0"), ((1, 2), "or_0")] : List ((Nat × Nat) × Wording)) := by cbv
  rw [found] at run
  exact ⟨bindings, found, lists, Option.some.inj run⟩

/-- The nodes differ, every edge is resolved and leads onward, and yet the first dependency edge listed is not the first
one given. -/
theorem lateSource_not_in_edge_order :
    (lateSource.1.map (·.id)).Nodup ∧
      (∀ edge ∈ lateSource.2, edge.dangling? lateSource.1 = none ∧
        (lateSource.1.map (·.id)).idxOf edge.source < (lateSource.1.map (·.id)).idxOf edge.target) ∧
      (Binding.dependencyEdges lateSource.1 lateSource.2).map (·.arc) = [(1, 2), (0, 1)] ∧
      (propagate lateSource.1 lateSource.2 2).toOption.map (·.edges.map (·.edge.arc)) = some [(0, 1), (1, 2)] := by
  refine ⟨by decide, by decide, by decide, by cbv⟩

end BoxTree
