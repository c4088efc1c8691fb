import BoxTree.Graph.Cycle
import BoxTree.Proofs.Paths
import Mathlib.Data.List.Chain

/-! The path that a search for a cycle is on, and the cycle that an arc back to it closes. The search
follows arcs backwards, so its latest stop comes first in the direction of the graph. -/

namespace BoxTree

variable {α : Type}

/-- Nodes that arcs lead around: from each to the next, and from the last back to the first. -/
structure IsCycle (arcs : List (α × α)) (nodes : List α) : Prop where
  nonempty : nodes ≠ []
  once : nodes.Nodup
  around : (nodes ++ nodes.head?.toList).IsChain (Arc arcs)

variable {arcs : List (α × α)}

theorem IsCycle.onCycle {nodes : List α} (cycle : IsCycle arcs nodes) {id : α} (member : id ∈ nodes) :
    OnCycle arcs id := by
  have paths : (nodes ++ nodes.head?.toList).IsChain (Relation.TransGen (Arc arcs)) :=
    cycle.around.imp fun _ _ => .single
  have paths := paths.pairwise
  obtain ⟨left, right, rfl⟩ := List.append_of_mem member
  cases left with
  | nil => exact (List.pairwise_append.mp paths).2.2 id (by simp) id (by simp)
  | cons first left =>
    obtain ⟨inside, _, last⟩ := List.pairwise_append.mp paths
    have back : Relation.TransGen (Arc arcs) id first := last id (by simp) first (by simp)
    have forth : Relation.TransGen (Arc arcs) first id := (List.pairwise_cons.mp inside).1 id (by simp)
    exact back.trans forth

namespace Trail

def stops (trail : Trail α) : List α := trail.arcs.map (·.2) ++ [trail.start]

theorem mem_nodes {trail : Trail α} {id : α} : id ∈ trail.nodes ↔ id ∈ trail.stops := by
  simp [nodes, stops, or_comm]

private theorem head?_stops (trail : Trail α) : trail.stops.head? = some trail.head := by
  obtain ⟨start, arcs⟩ := trail
  cases arcs <;> rfl

/-- A path grows by arcs that leave its latest stop for a new one. -/
inductive Grown (arcs : List (α × α)) : Trail α → Prop where
  | start (id : α) : Grown arcs ⟨id, []⟩
  | push {trail : Trail α} {arc : α × α} (grown : Grown arcs trail) (back : Arc arcs arc.2 arc.1)
      (next : arc.1 = trail.head) (fresh : arc.2 ∉ trail.nodes) : Grown arcs ⟨trail.start, arc :: trail.arcs⟩

variable {trail : Trail α}

theorem Grown.once (grown : Grown arcs trail) : trail.stops.Nodup := by
  induction grown with
  | start => simp [stops]
  | push _ _ _ fresh ih => exact List.nodup_cons.mpr ⟨fun member => fresh (mem_nodes.mpr member), ih⟩

private theorem Grown.chain (grown : Grown arcs trail) : trail.stops.IsChain (Arc arcs) := by
  induction grown with
  | start => exact .singleton _
  | @push trail arc _ back next _ ih =>
    apply List.isChain_cons.mpr
    refine ⟨?_, ih⟩
    intro stop first
    change stop ∈ trail.stops.head? at first
    rw [head?_stops] at first
    cases first
    exact next ▸ back

private theorem Grown.stops_eq (grown : Grown arcs trail) : trail.head :: trail.arcs.map (·.1) = trail.stops := by
  induction grown with
  | start => rfl
  | @push trail arc _ _ next _ ih =>
    change arc.2 :: arc.1 :: trail.arcs.map (·.1) = arc.2 :: trail.stops
    rw [next, ih]

variable [DecidableEq α]

private theorem backTo_push (start id : α) (arc : α × α) (rest : List (α × α)) :
    (⟨start, arc :: rest⟩ : Trail α).backTo id =
      if arc.2 = id then ⟨start, arc :: rest⟩ else (⟨start, rest⟩ : Trail α).backTo id := by
  by_cases here : arc.2 = id <;> simp [backTo, here]

theorem head_backTo (start id : α) (rest : List (α × α)) : ((⟨start, rest⟩ : Trail α).backTo id).head = id := by
  induction rest with
  | nil => rfl
  | cons arc rest ih =>
    rw [backTo_push]
    split
    next here => exact here
    next => exact ih

theorem backTo_head (trail : Trail α) : trail.backTo trail.head = trail := by
  obtain ⟨start, rest⟩ := trail
  cases rest with
  | nil => rfl
  | cons arc rest => exact (backTo_push start _ arc rest).trans (if_pos rfl)

theorem Grown.backTo (grown : Grown arcs trail) (id : α) : Grown arcs (trail.backTo id) := by
  induction grown with
  | start first => exact .start id
  | @push trail arc grown back next fresh ih =>
    rw [backTo_push]
    split
    next => exact .push grown back next fresh
    next => exact ih

theorem stops_backTo {start id : α} {rest : List (α × α)} {before : List α}
    (once : (⟨start, rest⟩ : Trail α).stops.Nodup) (on : id :: before <:+ (⟨start, rest⟩ : Trail α).stops) :
    ((⟨start, rest⟩ : Trail α).backTo id).stops = id :: before := by
  induction rest with
  | nil =>
    obtain ⟨rfl, rfl⟩ : id = start ∧ before = [] := by simpa [stops, List.suffix_cons_iff] using on
    rfl
  | cons arc rest ih =>
    change (arc.2 :: (⟨start, rest⟩ : Trail α).stops).Nodup at once
    change id :: before <:+ arc.2 :: (⟨start, rest⟩ : Trail α).stops at on
    obtain ⟨absent, once⟩ := List.nodup_cons.mp once
    rw [backTo_push]
    split
    next here =>
      rcases List.suffix_cons_iff.mp on with same | later
      · exact same.symm
      · exact False.elim (absent (here ▸ later.subset List.mem_cons_self))
    next other =>
      rcases List.suffix_cons_iff.mp on with same | later
      · exact False.elim (other (List.cons.inj same).1.symm)
      · exact ih once later

private theorem map_closing (trail : Trail α) (arc : α × α) :
    (trail.closing arc).map (·.1) = ((arc :: trail.arcs).map (·.1)).reverse.dropWhile (· ≠ arc.2) := by
  rw [closing, ← List.map_reverse, List.dropWhile_map]
  rfl

/-- The nodes of a closed cycle are the stops from the latest one to the one that the arc returns to. -/
theorem Grown.closing_nodes (grown : Grown arcs trail) {arc : α × α} {left right : List α}
    (next : arc.1 = trail.head) (split : trail.stops = left ++ arc.2 :: right) (absent : arc.2 ∉ right) :
    ((trail.closing arc).map (·.1)).reverse = left ++ [arc.2] := by
  have tails : (arc :: trail.arcs).map (·.1) = left ++ arc.2 :: right := by
    rw [← split, ← grown.stops_eq, List.map_cons, next]
  have earlier : ∀ id ∈ right.reverse, decide (id ≠ arc.2) = true := by
    intro id member
    exact decide_eq_true fun same => absent (same ▸ List.mem_reverse.mp member)
  rw [map_closing, tails, List.reverse_append, List.reverse_cons, List.append_assoc,
    List.dropWhile_append_of_pos earlier]
  simp

theorem Grown.closes (grown : Grown arcs trail) {arc : α × α} (back : Arc arcs arc.2 arc.1)
    (next : arc.1 = trail.head) (returns : arc.2 ∈ trail.nodes) :
    IsCycle arcs ((trail.closing arc).map (·.1)).reverse := by
  obtain ⟨left, right, split⟩ := List.append_of_mem (mem_nodes.mp returns)
  have once : (left ++ arc.2 :: right).Nodup := split ▸ grown.once
  have absent : arc.2 ∉ right := (List.nodup_cons.mp (List.nodup_append.mp once).2.1).1
  have first : (left ++ [arc.2]).head? = some arc.1 := by
    rw [next, ← head?_stops, split]
    cases left <;> rfl
  rw [grown.closing_nodes next split absent]
  refine ⟨by simp, once.sublist (by simp), ?_⟩
  rw [first]
  apply List.isChain_append.mpr
  refine ⟨?_, .singleton _, ?_⟩
  · have chain : ((left ++ [arc.2]) ++ right).IsChain (Arc arcs) := by simpa [split] using grown.chain
    exact chain.left_of_append
  · intro last isLast start isStart
    simp only [List.getLast?_concat, Option.mem_def, Option.some.injEq] at isLast
    cases isLast
    cases isStart
    exact back

end Trail
end BoxTree
