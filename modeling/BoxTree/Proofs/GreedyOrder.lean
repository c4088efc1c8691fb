import BoxTree.Proofs.OrderExact
import Mathlib

/-! Linear orders are greedy. Nodes are discovered as roots or as children of taken nodes, and of those that wait
and are ready, each step takes the one that the queue order puts first. Sorting the queue at every step and keeping
it sorted never turns two nodes of equal weight around. -/

namespace BoxTree

private theorem not_sublist_swap {α : Type} {items : List α} {left right : α} (once : items.Nodup)
    (forth : [left, right].Sublist items) : ¬ [right, left].Sublist items := by
  induction items with
  | nil => cases forth
  | cons first rest ih =>
    obtain ⟨absent, once⟩ := List.nodup_cons.mp once
    intro back
    cases forth with
    | cons _ forth =>
      cases back with
      | cons _ back => exact ih once forth back
      | cons_cons _ back => exact absent (forth.subset (by simp))
    | cons_cons _ forth =>
      cases back with
      | cons _ back => exact absent (back.subset (by simp))
      | cons_cons _ back => exact absent (List.singleton_sublist.mp forth)

private theorem pair_sublist_or {α : Type} {items : List α} {left right : α} (leftMember : left ∈ items)
    (rightMember : right ∈ items) (differ : left ≠ right) :
    [left, right].Sublist items ∨ [right, left].Sublist items := by
  obtain ⟨before, after, rfl⟩ := List.append_of_mem leftMember
  rcases List.mem_append.mp rightMember with earlier | later
  · exact .inr ((List.singleton_sublist.mpr earlier).append (List.singleton_sublist.mpr List.mem_cons_self))
  · have later := (List.mem_cons.mp later).resolve_left differ.symm
    exact .inl (((List.singleton_sublist.mpr later).cons_cons left).trans (List.sublist_append_right _ _))

variable {α β : Type} [DecidableEq α]

namespace Links

/-- The nodes that are discovered once some nodes are taken, one after the other: first the roots, then every other
node when its first parent is taken, siblings in child order. -/
def discovered (links : Links α) (taken : List α) : List α :=
  taken.foldl (fun found id => found ++ (links.children id).filter (· ∉ found)) links.roots

/-- What a queue order compares before it asks which node was discovered first. -/
def weight (links : Links α) : QueueOrder → α → Nat
  | .insertion, _ => 0
  | .parentCount, id => links.parentCount id

/-- A heavier node is ahead of a lighter one. Of equally heavy ones the node discovered earlier is ahead. -/
def Ahead (links : Links α) (order : QueueOrder) (found : List α) (left right : α) : Prop :=
  links.weight order right < links.weight order left ∨
    links.weight order left = links.weight order right ∧ [left, right].Sublist found

/-- Once some nodes are taken, another one waits and all of its parents are taken. -/
structure Candidate (links : Links α) (taken : List α) (id : α) : Prop where
  found : id ∈ links.discovered taken
  waits : id ∉ taken
  ready : ∀ parent, Arc links.arcs parent id → parent ∈ taken

/-- The candidate that is ahead of all others. -/
structure Picks (links : Links α) (order : QueueOrder) (taken : List α) (id : α) : Prop where
  candidate : links.Candidate taken id
  ahead : ∀ other, links.Candidate taken other → other ≠ id → links.Ahead order (links.discovered taken) id other

/-- Every node is picked when the nodes before it are taken, and after the last one nothing is left to pick. -/
structure Greedy (links : Links α) (order : QueueOrder) (taken : List α) : Prop where
  picks : ∀ before id after, taken = before ++ id :: after → links.Picks order before id
  complete : ∀ id, ¬ links.Candidate taken id

variable {links : Links α} {order : QueueOrder} {taken found queue : List α} {id left right : α}

theorem discovered_concat (links : Links α) (taken : List α) (id : α) :
    links.discovered (taken ++ [id]) =
      links.discovered taken ++ (links.children id).filter (· ∉ links.discovered taken) := by
  rw [discovered, List.foldl_append]
  rfl

theorem nodup_discovered (unique : links.ids.Nodup) (taken : List α) : (links.discovered taken).Nodup := by
  induction taken using List.reverseRecOn with
  | nil => exact unique.filter _
  | append_singleton taken id ih =>
    rw [discovered_concat]
    refine List.nodup_append.mpr ⟨ih, (links.nodup_children id).filter _, ?_⟩
    rintro old before new fresh rfl
    exact of_decide_eq_true (List.mem_filter.mp fresh).2 before

theorem Ahead.asymm (once : found.Nodup) (ahead : links.Ahead order found left right) :
    ¬ links.Ahead order found right left := by
  rintro (lighter | ⟨_, back⟩)
  · rcases ahead with heavier | ⟨same, _⟩ <;> omega
  · rcases ahead with heavier | ⟨_, forth⟩
    · omega
    · exact not_sublist_swap once forth back

/-- Of equally heavy nodes in a queue, those discovered earlier stand before the others. -/
def InTurn (links : Links α) (order : QueueOrder) (found queue : List α) : Prop :=
  queue.Pairwise fun left right =>
    links.weight order left = links.weight order right → [left, right].Sublist found

/-- Sorting by weight keeps turns, so the nodes are looked at in the order of who is ahead. -/
theorem InTurn.pairwise_arrange (turns : links.InTurn order found queue) (once : queue.Nodup) :
    (links.arrange order queue).Pairwise (links.Ahead order found) := by
  cases order with
  | insertion => exact turns.imp fun same => .inr ⟨rfl, same rfl⟩
  | parentCount =>
    have perm := links.arrange_perm .parentCount queue
    rw [arrange_parentCount] at perm ⊢
    let heavier (left right : α) : Bool := decide (links.parentCount right ≤ links.parentCount left)
    have trans : ∀ a b c, heavier a b = true → heavier b c = true → heavier a c = true := by
      simp only [heavier, decide_eq_true_iff]
      omega
    have total : ∀ a b, (heavier a b || heavier b a) = true := by
      simp only [heavier, Bool.or_eq_true, decide_eq_true_iff]
      omega
    apply List.pairwise_iff_forall_sublist.mpr
    intro left right pair
    have weighs : links.parentCount right ≤ links.parentCount left :=
      of_decide_eq_true (List.pairwise_iff_forall_sublist.mp (List.pairwise_mergeSort trans total queue) pair)
    rcases Nat.lt_or_eq_of_le weighs with lighter | same
    · exact .inl lighter
    · have leftWaits := perm.subset (pair.subset List.mem_cons_self)
      have rightWaits := perm.subset (pair.subset (List.mem_cons_of_mem _ List.mem_cons_self))
      have differ : left ≠ right := by
        rintro rfl
        exact List.nodup_iff_sublist.mp (perm.nodup_iff.mpr once) left pair
      rcases pair_sublist_or leftWaits rightWaits differ with forth | back
      · exact .inr ⟨same.symm, List.pairwise_iff_forall_sublist.mp turns forth same.symm⟩
      · have swapped := List.pair_sublist_mergeSort trans total (decide_eq_true same.ge) back
        exact False.elim (not_sublist_swap (perm.nodup_iff.mpr once) pair swapped)

/-- A step passes over the nodes that are not ready, takes the first ready one, and keeps the others as they were
arranged, with the new children behind them. -/
theorem exists_first_of_step {work next : Work α} (advanced : links.step order work = some next) :
    ∃ before id after, links.arrange order work.queue = before ++ id :: after ∧
      (∀ other ∈ before, links.isReady work.reached other = false) ∧ links.Takes work id next ∧
      next.queue = before ++ after ++ (links.children id).filter (· ∉ before ++ after ++ next.reached) := by
  obtain ⟨id, taken⟩ := takes_of_step advanced
  simp only [step] at advanced
  split at advanced
  next => cases advanced
  next other found =>
    obtain ⟨ready, before, after, arranged, skipped⟩ := List.find?_eq_some_iff_append.mp found
    simp only [Bool.not_eq_true'] at skipped
    have absent : other ∉ before := by
      intro member
      rw [skipped other member] at ready
      cases ready
    cases advanced
    obtain rfl : other = id := by simpa using taken.reached
    refine ⟨before, other, after, arranged, skipped, taken, ?_⟩
    rw [arranged, List.erase_append_right _ absent, List.erase_cons_head]

/-- What holds at every point of a run from the roots: what is discovered waits or is taken, the queue is in turn,
and every node was picked when it was taken. -/
structure Tidy (links : Links α) (order : QueueOrder) (work : Work α) : Prop where
  once : (work.queue ++ work.reached).Nodup
  listed : ∀ id, id ∈ work.queue ++ work.reached ↔ id ∈ links.discovered work.reached
  turns : links.InTurn order (links.discovered work.reached) work.queue
  picks : ∀ before id after, work.reached = before ++ id :: after → links.Picks order before id

private theorem tidy_start (unique : links.ids.Nodup) (order : QueueOrder) : links.Tidy order ⟨links.roots, []⟩ where
  once := (sound_start unique).once
  listed id := by simp [discovered]
  turns := List.pairwise_iff_forall_sublist.mpr fun pair _ => pair
  picks before id after empty := by simp at empty

namespace Tidy

variable {work next : Work α} (tidy : links.Tidy order work)
include tidy

private theorem candidate_iff : links.Candidate work.reached id ↔
    id ∈ work.queue ∧ links.isReady work.reached id = true := by
  rw [isReady_iff]
  constructor
  · intro candidate
    have listed := (tidy.listed id).mpr candidate.found
    exact ⟨(List.mem_append.mp listed).resolve_right candidate.waits, candidate.ready⟩
  · intro given
    obtain ⟨waits, ready⟩ := given
    refine ⟨(tidy.listed id).mp (List.mem_append_left _ waits), ?_, ready⟩
    exact fun reached => List.disjoint_of_nodup_append tidy.once waits reached

private theorem pairwise_arrange :
    (links.arrange order work.queue).Pairwise (links.Ahead order (links.discovered work.reached)) :=
  tidy.turns.pairwise_arrange (List.nodup_append.mp tidy.once).1

/-- The node that a step takes is the first ready one that it looks at, hence ahead of all others that are ready. -/
theorem picks_of_step (advanced : links.step order work = some next) :
    ∃ id, next.reached = work.reached ++ [id] ∧ links.Picks order work.reached id := by
  obtain ⟨before, id, after, arranged, skipped, taken, _⟩ := exists_first_of_step advanced
  refine ⟨id, taken.reached, tidy.candidate_iff.mpr ⟨taken.waited, isReady_iff.mpr taken.ready⟩, ?_⟩
  intro other candidate differ
  obtain ⟨waits, ready⟩ := tidy.candidate_iff.mp candidate
  have ahead := tidy.pairwise_arrange
  rw [arranged] at ahead
  have member := (links.arrange_perm order work.queue).mem_iff.mpr waits
  rw [arranged, List.mem_append, List.mem_cons] at member
  rcases member with earlier | same | later
  · rw [skipped other earlier] at ready
    cases ready
  · exact False.elim (differ same)
  · exact (List.pairwise_cons.mp (List.pairwise_append.mp ahead).2.1).1 other later

private theorem turns_of_step (advanced : links.step order work = some next) :
    links.InTurn order (links.discovered next.reached) next.queue := by
  obtain ⟨before, id, after, arranged, _, taken, queue⟩ := exists_first_of_step advanced
  have perm : (before ++ id :: after).Perm work.queue := arranged ▸ links.arrange_perm order work.queue
  have known (other : α) : other ∈ before ++ after ++ next.reached ↔ other ∈ links.discovered work.reached := by
    have waits : other ∈ before ++ id :: after ↔ other ∈ work.queue := perm.mem_iff
    rw [← tidy.listed, taken.reached]
    simp only [List.mem_append, List.mem_cons, List.not_mem_nil, or_false] at waits ⊢
    tauto
  have fresh : (links.children id).filter (· ∉ before ++ after ++ next.reached) =
      (links.children id).filter (· ∉ links.discovered work.reached) :=
    List.filter_congr fun other _ => by simp only [known]
  rw [queue, fresh, taken.reached, discovered_concat]
  have ahead := tidy.pairwise_arrange
  rw [arranged] at ahead
  apply List.pairwise_append.mpr
  refine ⟨?_, List.pairwise_iff_forall_sublist.mpr fun pair _ => pair.trans (List.sublist_append_right _ _), ?_⟩
  · have kept : (before ++ after).Sublist (before ++ id :: after) :=
      (List.Sublist.refl _).append (List.sublist_cons_self _ _)
    apply (ahead.sublist kept).imp
    intro left right ahead same
    rcases ahead with lighter | ⟨_, earlier⟩
    · omega
    · exact earlier.trans (List.sublist_append_left _ _)
  · intro left old right new _
    have discovered := (known left).mp (List.mem_append_left _ old)
    exact (List.singleton_sublist.mpr discovered).append (List.singleton_sublist.mpr new)

private theorem step (advanced : links.step order work = some next) : links.Tidy order next where
  once := by
    obtain ⟨_, taken⟩ := takes_of_step advanced
    exact taken.once tidy.once
  listed other := by
    obtain ⟨id, taken⟩ := takes_of_step advanced
    rw [taken.mem_listed, tidy.listed, taken.reached, discovered_concat, List.mem_append, List.mem_filter, mem_children,
      decide_eq_true_iff]
    tauto
  turns := tidy.turns_of_step advanced
  picks before id after split := by
    obtain ⟨last, reached, picks⟩ := tidy.picks_of_step advanced
    rw [reached] at split
    rcases List.eq_nil_or_concat after with rfl | ⟨middle, other, rfl⟩
    · obtain ⟨rfl, same⟩ := List.append_inj' split rfl
      cases same
      exact picks
    · have longer : work.reached ++ [last] = (before ++ id :: middle) ++ [other] := by simpa using split
      exact tidy.picks before id middle (List.append_inj' longer rfl).1

/-- However often the queue was sorted before, it is looked at as if the nodes that wait stood in the order in which
they were discovered. -/
theorem arrange_eq (unique : links.ids.Nodup) :
    links.arrange order work.queue =
      links.arrange order ((links.discovered work.reached).filter (· ∉ work.reached)) := by
  have discovered := nodup_discovered unique work.reached
  have turns : links.InTurn order (links.discovered work.reached)
      ((links.discovered work.reached).filter (· ∉ work.reached)) :=
    List.pairwise_iff_forall_sublist.mpr fun pair _ => pair.trans List.filter_sublist
  have same : work.queue.Perm ((links.discovered work.reached).filter (· ∉ work.reached)) := by
    apply (List.perm_ext_iff_of_nodup (List.nodup_append.mp tidy.once).1 (discovered.filter _)).mpr
    intro id
    rw [List.mem_filter, ← tidy.listed, List.mem_append, decide_eq_true_iff]
    have apart := @List.disjoint_of_nodup_append _ _ _ tidy.once id
    tauto
  apply List.Perm.eq_of_pairwise _ tidy.pairwise_arrange (turns.pairwise_arrange (discovered.filter _))
  · exact (links.arrange_perm order _).trans (same.trans (links.arrange_perm order _).symm)
  · intro left right _ _ forth back
    exact False.elim (forth.asymm discovered back)

end Tidy

/-- A point that the fold comes to from the roots. -/
def Comes (links : Links α) (order : QueueOrder) : Work α → Prop :=
  Relation.ReflTransGen (fun work next => links.step order work = some next) ⟨links.roots, []⟩

private theorem Comes.tidy (unique : links.ids.Nodup) {work : Work α} (comes : links.Comes order work) :
    links.Tidy order work := by
  induction comes with
  | refl => exact tidy_start unique order
  | tail _ advanced ih => exact ih.step advanced

private theorem comes_run (links : Links α) (order : QueueOrder) :
    links.Comes order (links.run order ⟨links.roots, []⟩) :=
  run_keeps_of_step (fun _ _ comes advanced => comes.tail advanced) .refl

theorem greedy_linearize (unique : links.ids.Nodup) (order : QueueOrder) :
    links.Greedy order (links.linearize order).order := by
  rw [linearize_eq]
  split
  next rootless =>
    simp only [Bool.and_eq_true, List.isEmpty_iff] at rootless
    refine ⟨fun before id after empty => by simp at empty, ?_⟩
    intro id candidate
    have found := candidate.found
    rw [discovered, List.foldl_nil, rootless.1] at found
    cases found
  next =>
    have tidy := (comes_run links order).tidy unique
    refine ⟨tidy.picks, ?_⟩
    intro id candidate
    obtain ⟨waits, _⟩ := tidy.candidate_iff.mp candidate
    obtain ⟨parent, arc, missing⟩ := (run_settled unique _).blocked waits
    exact missing (candidate.ready parent arc)

end Links

/-- Linearizing distinct nodes and edges between them is greedy: at every point of the run from the roots the queue
is looked at as if the waiting nodes had been sorted once from the order of discovery, a step takes the node that is
picked there, and so every node of the result was picked after those before it, until nothing was left to pick. -/
theorem linearize_greedy (nodes : List (Node α β)) (edges : List (Edge α)) (queueOrder : QueueOrder)
    (unique : (nodes.map (·.id)).Nodup)
    (closed : ∀ edge ∈ edges, edge.source ∈ nodes.map (·.id) ∧ edge.target ∈ nodes.map (·.id)) :
    ∃ links : Links α, links.ids = nodes.map (·.id) ∧ links.arcs = edges.map (·.arc) ∧
      linearize nodes edges queueOrder = .ok (links.linearize queueOrder) ∧
      links.Greedy queueOrder (links.linearize queueOrder).order ∧
      ∀ work, links.Comes queueOrder work →
        links.arrange queueOrder work.queue =
            links.arrange queueOrder ((links.discovered work.reached).filter (· ∉ work.reached)) ∧
          ∀ next, links.step queueOrder work = some next →
            ∃ id, next.reached = work.reached ++ [id] ∧ links.Picks queueOrder work.reached id := by
  obtain ⟨links, ids, arcs, found⟩ := linearize_eq_ok nodes edges queueOrder closed
  have unique : links.ids.Nodup := ids ▸ unique
  refine ⟨links, ids, arcs, found, Links.greedy_linearize unique queueOrder, ?_⟩
  intro work comes
  have tidy := comes.tidy unique
  exact ⟨tidy.arrange_eq unique, fun next advanced => tidy.picks_of_step advanced⟩

/-- Behind the first root, its child with one parent goes before the second root, which has none; its child with two
parents still has to wait. -/
def lateRoot : Graph Nat Unit where
  nodes := [⟨0, .gate .and⟩, ⟨1, .gate .and⟩, ⟨2, .gate .not⟩, ⟨3, .gate .not⟩, ⟨4, .gate .not⟩]
  edges := [⟨0, 2, none, none, none⟩, ⟨1, 2, none, none, none⟩, ⟨0, 3, none, none, none⟩, ⟨1, 4, none, none, none⟩]

theorem linearize_greedy_lateRoot :
    ∃ links : Links Nat, links.ids = [0, 1, 2, 3, 4] ∧ links.arcs = [(0, 2), (1, 2), (0, 3), (1, 4)] ∧
      (links.linearize .parentCount).order = [0, 3, 1, 2, 4] ∧ links.Picks .parentCount [0] 3 ∧
      links.Picks .parentCount [0, 3] 1 := by
  obtain ⟨links, ids, arcs, found, greedy, _⟩ :=
    linearize_greedy lateRoot.nodes lateRoot.edges .parentCount (by decide) (by decide)
  have run : linearize lateRoot.nodes lateRoot.edges .parentCount = .ok ⟨[0, 3, 1, 2, 4], [0, 1], [], none⟩ := by cbv
  have order : (links.linearize .parentCount).order = [0, 3, 1, 2, 4] :=
    congrArg Linearization.order (Except.ok.inj (found.symm.trans run))
  rw [order] at greedy
  exact ⟨links, ids, arcs, order, greedy.picks [0] 3 [1, 2, 4] rfl, greedy.picks [0, 3] 1 [2, 4] rfl⟩

end BoxTree
