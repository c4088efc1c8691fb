import BoxTree.Proofs.Fragments
import BoxTree.Proofs.GreedyOrder

/-! The order of a graph, cut down to a component, is the order of the component. Both are greedy, and there is only one
greedy order: steps taken elsewhere change neither what a component has discovered nor which of its nodes is ahead. -/

namespace BoxTree

variable {α β : Type} [DecidableEq α]

namespace Links

variable {links part : Links α} {order : QueueOrder} {taken inside : List α} {id : α}

private theorem Picks.unique {other : α} (unique : links.ids.Nodup) (left : links.Picks order taken id)
    (right : links.Picks order taken other) : id = other := by
  by_contra differ
  have forth := left.ahead other right.candidate (Ne.symm differ)
  have back := right.ahead id left.candidate differ
  exact forth.asymm (nodup_discovered unique taken) back

private theorem Greedy.unique {first second : List α} (unique : links.ids.Nodup) (left : links.Greedy order first)
    (right : links.Greedy order second) : first = second := by
  have later (rest other common : List α) (split : first = common ++ rest) (also : second = common ++ other) :
      rest = other := by
    induction rest generalizing other common with
    | nil =>
      cases other with
      | nil => rfl
      | cons id other =>
        rw [List.append_nil] at split
        exact False.elim (left.complete id (split ▸ (right.picks common id other also).candidate))
    | cons id rest ih =>
      have picked := left.picks common id rest split
      cases other with
      | nil =>
        rw [List.append_nil] at also
        exact False.elim (right.complete id (also ▸ picked.candidate))
      | cons next other =>
        obtain rfl := picked.unique unique (right.picks common next other also)
        rw [ih other (common ++ [id]) (by simpa using split) (by simpa using also)]
  exact later first second [] rfl rfl

/-- Some nodes by themselves, with the arcs that leave them. Arcs lead neither out of them nor into them. -/
structure Portion (links part : Links α) (inside : List α) : Prop where
  ids : part.ids = links.ids.filter (· ∈ inside)
  arcs : part.arcs = links.arcs.filter (·.1 ∈ inside)
  closed : ∀ source target, Arc links.arcs source target → (source ∈ inside ↔ target ∈ inside)

namespace Portion

variable (portion : links.Portion part inside)
include portion

private theorem arc_iff {source target : α} :
    Arc part.arcs source target ↔ Arc links.arcs source target ∧ source ∈ inside := by
  rw [Arc, portion.arcs, List.mem_filter, decide_eq_true_iff]
  rfl

private theorem children_eq (within : id ∈ inside) : part.children id = links.children id := by
  rw [children, children, portion.arcs, List.filter_filter]
  congr 2
  apply List.filter_congr
  intro arc _
  rw [Bool.and_eq_left_iff_imp, decide_eq_true_iff, decide_eq_true_iff]
  rintro rfl
  exact within

private theorem parents_eq (within : id ∈ inside) : part.parents id = links.parents id := by
  rw [parents, parents, portion.arcs, List.filter_filter]
  congr 2
  apply List.filter_congr
  intro arc member
  rw [Bool.and_eq_left_iff_imp, decide_eq_true_iff, decide_eq_true_iff]
  rintro rfl
  exact (portion.closed _ _ member).mpr within

private theorem weight_eq (within : id ∈ inside) : part.weight order id = links.weight order id := by
  cases order with
  | insertion => rfl
  | parentCount => exact congrArg List.length (portion.parents_eq within)

private theorem roots_eq : part.roots = links.roots.filter (· ∈ inside) := by
  rw [roots, roots, portion.ids, List.filter_filter, List.filter_filter]
  apply List.filter_congr
  intro id _
  by_cases within : id ∈ inside
  · simp only [within, isRoot, portion.parents_eq within, portion.children_eq within, Bool.and_comm]
  · simp [within]

/-- What a portion discovers is what the whole graph discovers in it, whatever was taken elsewhere in between. -/
theorem discovered_eq (taken : List α) :
    part.discovered (taken.filter (· ∈ inside)) = (links.discovered taken).filter (· ∈ inside) := by
  induction taken using List.reverseRecOn with
  | nil => exact portion.roots_eq
  | append_singleton taken id ih =>
    rw [discovered_concat, List.filter_append, List.filter_append, List.filter_filter]
    by_cases within : id ∈ inside
    · have own : [id].filter (· ∈ inside) = [id] := List.filter_eq_self.mpr (by simpa using within)
      rw [own, discovered_concat, ih, portion.children_eq within]
      congr 1
      apply List.filter_congr
      intro child member
      have inner := (portion.closed _ _ ((mem_children links).mp member)).mp within
      simp [inner]
    · have none : [id].filter (· ∈ inside) = [] := List.filter_eq_nil_iff.mpr (by simpa using within)
      have elsewhere : (links.children id).filter
          (fun child => decide (child ∈ inside) && decide (child ∉ links.discovered taken)) = [] := by
        apply List.filter_eq_nil_iff.mpr
        intro child member kept
        rw [Bool.and_eq_true, decide_eq_true_iff] at kept
        exact within ((portion.closed _ _ ((mem_children links).mp member)).mpr kept.1)
      rw [none, List.append_nil, ih, elsewhere, List.append_nil]

private theorem candidate_iff (within : id ∈ inside) :
    part.Candidate (taken.filter (· ∈ inside)) id ↔ links.Candidate taken id := by
  have found : id ∈ part.discovered (taken.filter (· ∈ inside)) ↔ id ∈ links.discovered taken := by
    rw [portion.discovered_eq, List.mem_filter]
    exact and_iff_left (decide_eq_true within)
  have waits : id ∈ taken.filter (· ∈ inside) ↔ id ∈ taken := by
    rw [List.mem_filter]
    exact and_iff_left (decide_eq_true within)
  constructor
  · intro candidate
    refine ⟨found.mp candidate.found, mt waits.mpr candidate.waits, ?_⟩
    intro parent arc
    have inner := (portion.closed _ _ arc).mpr within
    exact (List.mem_filter.mp (candidate.ready parent (portion.arc_iff.mpr ⟨arc, inner⟩))).1
  · intro candidate
    refine ⟨found.mpr candidate.found, mt waits.mp candidate.waits, ?_⟩
    intro parent arc
    obtain ⟨arc, inner⟩ := portion.arc_iff.mp arc
    exact List.mem_filter.mpr ⟨candidate.ready parent arc, decide_eq_true inner⟩

private theorem within_of_candidate (candidate : part.Candidate (taken.filter (· ∈ inside)) id) : id ∈ inside := by
  have found := candidate.found
  rw [portion.discovered_eq, List.mem_filter] at found
  exact of_decide_eq_true found.2

private theorem picks (picks : links.Picks order taken id) (within : id ∈ inside) :
    part.Picks order (taken.filter (· ∈ inside)) id where
  candidate := (portion.candidate_iff within).mpr picks.candidate
  ahead other candidate differ := by
    have inner := portion.within_of_candidate candidate
    have ahead := picks.ahead other ((portion.candidate_iff inner).mp candidate) differ
    rw [Ahead, portion.weight_eq within, portion.weight_eq inner, portion.discovered_eq]
    refine ahead.imp_right (And.imp_right fun earlier => ?_)
    have pair : [id, other].filter (· ∈ inside) = [id, other] := List.filter_eq_self.mpr (by simp [within, inner])
    exact pair ▸ earlier.filter _

/-- The nodes of a portion, in the order in which the whole graph takes them, are a greedy order of the portion. -/
theorem greedy (greedy : links.Greedy order taken) : part.Greedy order (taken.filter (· ∈ inside)) where
  picks before id after split := by
    obtain ⟨left, right, rfl, rfl, rest⟩ := List.filter_eq_append_iff.mp split
    obtain ⟨skipped, right, rfl, outside, within, _⟩ := List.filter_eq_cons_iff.mp rest
    have none : skipped.filter (· ∈ inside) = [] := List.filter_eq_nil_iff.mpr outside
    have picked := portion.picks (greedy.picks (left ++ skipped) id right (by simp)) (of_decide_eq_true within)
    rwa [List.filter_append, none, List.append_nil] at picked
  complete id candidate := by
    have within := portion.within_of_candidate candidate
    exact greedy.complete id ((portion.candidate_iff within).mp candidate)

private theorem order_linearize_eq (unique : links.ids.Nodup) (order : QueueOrder) :
    (links.linearize order).order.filter (· ∈ inside) = (part.linearize order).order := by
  have alone : part.ids.Nodup := by
    rw [portion.ids]
    exact unique.filter _
  exact (portion.greedy (greedy_linearize unique order)).unique alone (greedy_linearize alone order)

end Portion
end Links

section Linearize

variable (nodes : List (Node α β)) (edges : List (Edge α)) (queueOrder : QueueOrder)
  (unique : (nodes.map (·.id)).Nodup)
  (closed : ∀ edge ∈ edges, edge.source ∈ nodes.map (·.id) ∧ edge.target ∈ nodes.map (·.id))
include unique closed

/-- Where no edge leads into some nodes or out of them, they are ordered by themselves as within the whole graph. -/
theorem linearize_filter {part : List α} (level : ∀ edge ∈ edges, edge.source ∈ part ↔ edge.target ∈ part) :
    ∃ result alone, linearize nodes edges queueOrder = .ok result ∧
      linearize (nodes.filter (·.id ∈ part)) (edges.filter fun edge => edge.source ∈ part && edge.target ∈ part)
        queueOrder = .ok alone ∧
      result.order.filter (· ∈ part) = alone.order := by
  have kept : (nodes.filter (·.id ∈ part)).map (·.id) = (nodes.map (·.id)).filter (· ∈ part) := by
    rw [List.filter_map]
    rfl
  have inner : ∀ edge ∈ edges.filter fun edge => edge.source ∈ part && edge.target ∈ part,
      edge.source ∈ (nodes.filter (·.id ∈ part)).map (·.id) ∧
        edge.target ∈ (nodes.filter (·.id ∈ part)).map (·.id) := by
    intro edge member
    obtain ⟨listed, ends⟩ := List.mem_filter.mp member
    rw [Bool.and_eq_true] at ends
    rw [kept, List.mem_filter, List.mem_filter]
    exact ⟨⟨(closed edge listed).1, ends.1⟩, (closed edge listed).2, ends.2⟩
  obtain ⟨links, ids, arcs, found⟩ := linearize_eq_ok nodes edges queueOrder closed
  obtain ⟨alone, aloneIds, aloneArcs, aloneFound⟩ := linearize_eq_ok _ _ queueOrder inner
  have portion : links.Portion alone part := by
    refine ⟨by rw [aloneIds, kept, ids], ?_, ?_⟩
    · rw [aloneArcs, arcs, List.filter_map]
      congr 1
      apply List.filter_congr
      intro edge member
      simp [Edge.arc, level edge member]
    · intro source target arc
      rw [arcs] at arc
      obtain ⟨edge, member, same⟩ := List.mem_map.mp arc
      cases same
      exact level edge member
  exact ⟨_, _, found, aloneFound, portion.order_linearize_eq (ids ▸ unique) queueOrder⟩

/-- A weakly connected component is ordered by itself as it is within the whole graph, whether or not any of the two
orders is complete. -/
theorem linearize_component {first : α} {part : List α}
    (whole : ∀ id, id ∈ part ↔ Joined (edges.map (·.arc)) first id) :
    ∃ result alone, linearize nodes edges queueOrder = .ok result ∧
      linearize (nodes.filter (·.id ∈ part)) (edges.filter fun edge => edge.source ∈ part && edge.target ∈ part)
        queueOrder = .ok alone ∧
      result.order.filter (· ∈ part) = alone.order := by
  apply linearize_filter nodes edges queueOrder unique closed
  intro edge member
  have joined : Joined (edges.map (·.arc)) edge.source edge.target := Arc.joined (List.mem_map_of_mem member)
  rw [whole, whole]
  exact ⟨fun before => before.trans joined, fun behind => behind.trans joined.symm⟩

end Linearize

/-- A join whose roots are taken in turns with another component, which gets stuck at a loop. -/
def stuckBeside : Graph Nat Unit where
  nodes := [⟨0, .gate .not⟩, ⟨1, .gate .not⟩, ⟨2, .gate .not⟩, ⟨3, .gate .not⟩, ⟨4, .gate .not⟩]
  edges := [⟨0, 2, none, none, none⟩, ⟨1, 3, none, none, none⟩, ⟨4, 2, none, none, none⟩, ⟨3, 3, none, none, none⟩]

theorem linearize_component_stuckBeside :
    ∃ result alone, linearize stuckBeside.nodes stuckBeside.edges .parentCount = .ok result ∧
      linearize ([⟨0, .gate .not⟩, ⟨2, .gate .not⟩, ⟨4, .gate .not⟩] : List (Node Nat Unit))
        [⟨0, 2, none, none, none⟩, ⟨4, 2, none, none, none⟩] .parentCount = .ok alone ∧
      result.error = some (.cycle [3] [3]) ∧ result.order = [0, 1, 4, 2] ∧ alone.order = [0, 4, 2] ∧
      result.order.filter (· ∈ [0, 2, 4]) = alone.order := by
  have closed : ∀ edge ∈ stuckBeside.edges,
      edge.source ∈ stuckBeside.nodes.map (·.id) ∧ edge.target ∈ stuckBeside.nodes.map (·.id) := by decide
  have listed : [0, 2, 4] ∈ components (stuckBeside.nodes.map (·.id)) (stuckBeside.edges.map (·.arc)) := by
    have all : components (stuckBeside.nodes.map (·.id)) (stuckBeside.edges.map (·.arc)) = [[0, 2, 4], [1, 3]] := by
      cbv
    rw [all]
    exact List.mem_cons_self
  obtain ⟨_, _, _, whole⟩ := component_exact (arcs_closed closed) listed
  obtain ⟨result, alone, found, aloneFound, same⟩ :=
    linearize_component stuckBeside.nodes stuckBeside.edges .parentCount (by decide) closed whole
  have run : linearize stuckBeside.nodes stuckBeside.edges .parentCount =
      .ok ⟨[0, 1, 4, 2], [0, 1, 4], [], some (.cycle [3] [3])⟩ := by cbv
  obtain rfl := Except.ok.inj (found.symm.trans run)
  exact ⟨_, alone, found, aloneFound, rfl, rfl, same.symm, same⟩

end BoxTree
