import BoxTree.Proofs.OrderSteps
import Mathlib

/-! The fold always ends. Whatever registered nodes wait and are taken at the start, in whatever number, each step
lowers by exactly one the number of waiting nodes and of nodes that have yet to wait. -/

namespace BoxTree

variable {α β : Type} [DecidableEq α]

namespace Links

/-- The links as a mapping by id has them: a node that is listed twice is registered once. -/
def keyed (links : Links α) : Links α where
  ids := links.ids.eraseDups
  arcs := links.arcs
  closed arc member := by simpa only [List.mem_eraseDups] using links.closed arc member

/-- The steps that are left at most: one for each waiting node, however often it waits, and one for each registered
node that neither waits nor is taken. -/
def pending (links : Links α) (work : Work α) : Nat := links.keyed.remaining work

def Registered (links : Links α) (work : Work α) : Prop := ∀ id ∈ work.queue ++ work.reached, id ∈ links.ids

/-- What one step changes: a ready node that waits joins the end of those taken, and behind the others wait those of
its children that neither waited nor were taken, once each. -/
structure Lowers (links : Links α) (work next : Work α) : Prop where
  fewer : links.pending next + 1 = links.pending work
  registered : links.Registered next
  grown : ∃ id ∈ work.queue, (∀ parent, Arc links.arcs parent id → parent ∈ work.reached) ∧
    next.reached = work.reached ++ [id] ∧
    ∃ kept enqueued, next.queue = kept ++ enqueued ∧ kept.Perm (work.queue.erase id) ∧ enqueued.Nodup ∧
      ∀ child, child ∈ enqueued ↔ Arc links.arcs id child ∧ child ∉ work.queue ∧ child ∉ work.reached

/-- The points that work goes through from one on, each by a step from the one before, until it is done or stuck. The
measure tells how many they are, each adds one node to those taken, and following the fold as far as the measure shows
just them. -/
structure Trail (links : Links α) (order : QueueOrder) (work : Work α) (later : List (Work α)) : Prop where
  steps : List.IsChain (fun work next => links.step order work = some next) (work :: later)
  settled : links.Settled order (later.getLastD work)
  count : later.length + links.pending (later.getLastD work) = links.pending work
  reached : ∃ taken, (later.getLastD work).reached = work.reached ++ taken ∧ taken.length = later.length
  points : ∀ bound, links.pending work ≤ bound → links.points order bound work =
    .ok ((work :: later).map some ++ if (later.getLastD work).isDone then [] else [none])
  advance : ∀ bound, links.pending work ≤ bound → links.advance order bound work = later.getLastD work

variable {links : Links α} {order : QueueOrder} {work next : Work α}

private theorem remaining_pos (waits : work.isDone = false) : 0 < links.remaining work := by
  have some : 0 < work.queue.length := by
    rw [List.length_pos_iff]
    intro none
    rw [Work.isDone, none] at waits
    cases waits
  exact Nat.lt_of_lt_of_le some (Nat.le_add_right _ _)

/-- Taking the waiting node leaves the others and puts the new children behind them. -/
theorem Takes.enqueued {id : α} (taken : links.Takes work id next) :
    ∃ kept enqueued, next.queue = kept ++ enqueued ∧ kept.Perm (work.queue.erase id) ∧ enqueued.Nodup ∧
      ∀ child, child ∈ enqueued ↔ Arc links.arcs id child ∧ child ∉ work.queue ∧ child ∉ work.reached := by
  obtain ⟨kept, others, queue⟩ := taken.queue
  refine ⟨kept, _, queue, others, (links.nodup_children id).filter _, ?_⟩
  intro child
  have listed : child ∈ kept ++ next.reached ↔ child ∈ work.queue ++ work.reached := by
    rw [taken.reached, List.mem_append, List.mem_append, List.mem_append, List.mem_singleton, others.mem_iff,
      (List.perm_cons_erase taken.waited).mem_iff, List.mem_cons]
    tauto
  rw [List.mem_filter, mem_children, decide_eq_true_iff, listed, List.mem_append, not_or]

private theorem lowers_of_step (registered : links.Registered work) (advanced : links.step order work = some next) :
    links.Lowers work next := by
  have advancedKeyed : links.keyed.step order work = some next := advanced
  obtain ⟨id, taken⟩ := takes_of_step advanced
  refine ⟨remaining_of_step (nodup_eraseDups links.ids) advancedKeyed, ?_, ?_⟩
  · intro other member
    rcases taken.mem_listed.mp member with old | arc
    · exact registered other old
    · exact mem_ids_of_touched arc.touched_target
  · exact ⟨id, taken.waited, taken.ready, taken.reached, taken.enqueued⟩

private theorem stranger?_eq_none (registered : links.Registered work) : links.stranger? order work = none := by
  have known (id : α) (waits : id ∈ work.queue) : ¬ decide (id ∉ links.ids) = true := by
    simpa using registered id (List.mem_append_left _ waits)
  cases order with
  | parentCount => exact List.find?_eq_none.mpr known
  | insertion =>
    refine List.find?_eq_none.mpr fun id looked => known id ?_
    rcases List.mem_append.mp looked with before | first
    · exact List.takeWhile_subset _ before
    · exact List.dropWhile_subset _ (List.mem_of_mem_take first)

private theorem pending_pos (waits : ¬ work.isDone = true) : 0 < links.pending work :=
  remaining_pos (Bool.eq_false_iff.mpr waits)

/-- Work that is done or stuck goes nowhere. -/
theorem trail_of_settled (registered : links.Registered work) (settled : links.Settled order work) :
    links.Trail order work [] where
  steps := List.isChain_singleton _
  settled := settled
  count := Nat.zero_add _
  reached := ⟨[], (List.append_nil _).symm, rfl⟩
  points bound enough := by
    by_cases done : work.isDone = true
    · cases bound <;> simp [Links.points, done]
    · have stuck := settled.resolve_left done
      obtain ⟨bound, rfl⟩ := Nat.exists_eq_add_of_le' (Nat.le_trans (pending_pos done) enough)
      simp [Links.points, done, stranger?_eq_none registered, stuck]
  advance bound _ := by
    cases bound with
    | zero => rfl
    | succ bound => rcases settled with done | stuck <;> simp [Links.advance, *]

/-- A step goes before the trail of what it leads to. -/
theorem Trail.cons {later : List (Work α)} (registered : links.Registered work)
    (advanced : links.step order work = some next) (trail : links.Trail order next later) :
    links.Trail order work (next :: later) := by
  have falls := (lowers_of_step registered advanced).fewer
  have last : (next :: later).getLastD work = later.getLastD next := List.getLastD_cons
  obtain ⟨id, step⟩ := takes_of_step advanced
  have waits : ¬ work.isDone = true := by
    rw [Work.isDone, List.isEmpty_iff]
    exact List.ne_nil_of_mem step.waited
  refine ⟨List.isChain_cons_cons.mpr ⟨advanced, trail.steps⟩, last ▸ trail.settled, ?_, ?_, ?_, ?_⟩
  · have count := trail.count
    rw [last, List.length_cons]
    omega
  · obtain ⟨taken, reached, count⟩ := trail.reached
    refine ⟨id :: taken, ?_, congrArg Nat.succ count⟩
    rw [last, reached, step.reached, List.append_assoc]
    rfl
  · intro bound enough
    obtain ⟨bound, rfl⟩ := Nat.exists_eq_add_of_le' (Nat.le_trans (pending_pos waits) enough)
    simp only [Links.points, waits, stranger?_eq_none registered, advanced, trail.points bound (by omega), last]
    rfl
  · intro bound enough
    obtain ⟨bound, rfl⟩ := Nat.exists_eq_add_of_le' (Nat.le_trans (pending_pos waits) enough)
    simp only [Links.advance, waits, advanced, trail.advance bound (by omega), last]
    rfl

private theorem exists_trail (order : QueueOrder) (registered : links.Registered work) :
    ∃ later, links.Trail order work later ∧ ∀ point ∈ work :: later, links.Registered point := by
  -- The measure carries the induction: it bounds the steps that are left.
  induction size : links.pending work using Nat.strongRecOn generalizing work with
  | ind _ ih =>
    subst size
    cases advanced : links.step order work with
    | none => exact ⟨[], trail_of_settled registered (.inr advanced), List.forall_mem_singleton.mpr registered⟩
    | some next =>
      have lowers := lowers_of_step registered advanced
      have smaller : links.pending next < links.pending work := Nat.lt_of_succ_le (Nat.le_of_eq lowers.fewer)
      obtain ⟨later, trail, every⟩ := ih _ smaller lowers.registered rfl
      exact ⟨next :: later, trail.cons registered advanced, List.forall_mem_cons.mpr ⟨registered, every⟩⟩

private theorem pending_le_remaining (links : Links α) (work : Work α) : links.pending work ≤ links.remaining work :=
  Nat.add_le_add_left ((eraseDups_sublist links.ids).filter _).length_le _

private theorem ids_of_ofFragment {nodes : List (Node α β)} {edges : List (Edge α)}
    (made : ofFragment nodes edges = .ok links) : links.ids = nodes.map (·.id) := by
  unfold ofFragment at made
  dsimp only at made
  split at made
  next => cases made
  next =>
    cases made
    rfl

end Links

/-- From any registered nodes that wait and are taken, repeated or listed on both sides, the fold comes to an end within
as many steps as the measure says, a last one that finds the work stuck included. Each step at any point lowers the
measure by one, adds one node to the end of those taken, and lets no node wait that waited or was taken. -/
theorem fold_ends {nodes : List (Node α β)} {edges : List (Edge α)} {links : Links α} (order : QueueOrder)
    (made : Links.ofFragment nodes edges = .ok links) (work : Work α)
    (listed : ∀ id ∈ work.queue ++ work.reached, id ∈ nodes.map (·.id)) :
    (∃ later, links.Trail order work later ∧ later.length ≤ links.pending work ∧
      ((later.getLastD work).isDone = false → later.length + 1 ≤ links.pending work) ∧
      links.run order work = later.getLastD work ∧
      ∀ point ∈ work :: later, links.Registered point) ∧
    ∀ point next, links.Registered point → links.step order point = some next → links.Lowers point next := by
  have registered : links.Registered work := by
    rw [Links.Registered, Links.ids_of_ofFragment made]
    exact listed
  refine ⟨?_, fun point next => Links.lowers_of_step⟩
  obtain ⟨later, trail, every⟩ := Links.exists_trail order registered
  have count := trail.count
  refine ⟨later, trail, by omega, ?_, trail.advance _ (links.pending_le_remaining work), every⟩
  intro stuck
  have positive : 0 < links.pending (later.getLastD work) := Links.pending_pos (Bool.eq_false_iff.mp stuck)
  omega

/-- A node leads into a loop, and another one is listed twice. -/
def loopBehind : List (Node Nat Unit) × List (Edge Nat) :=
  ([⟨0, .gate .not⟩, ⟨1, .gate .not⟩, ⟨2, .gate .not⟩, ⟨3, .gate .not⟩, ⟨3, .gate .and⟩],
    [⟨0, 1, none, none, none⟩, ⟨1, 2, none, none, none⟩, ⟨2, 1, none, none, none⟩])

/-- At the start the first node waits twice and is taken already. It is taken twice more before the work is stuck. -/
theorem fold_ends_loopBehind :
    ∃ links, Links.ofFragment loopBehind.1 loopBehind.2 = .ok links ∧ links.pending ⟨[0, 0], [0]⟩ = 5 ∧
      links.Trail .parentCount ⟨[0, 0], [0]⟩ [⟨[0, 1], [0, 0]⟩, ⟨[1], [0, 0, 0]⟩] ∧
      links.points .parentCount 5 ⟨[0, 0], [0]⟩ =
        .ok [some ⟨[0, 0], [0]⟩, some ⟨[0, 1], [0, 0]⟩, some ⟨[1], [0, 0, 0]⟩, none] := by
  let links : Links Nat := ⟨[0, 1, 2, 3, 3], [(0, 1), (1, 2), (2, 1)], by decide⟩
  have made : Links.ofFragment loopBehind.1 loopBehind.2 = .ok links := rfl
  have measure : links.pending ⟨[0, 0], [0]⟩ = 5 := by decide
  have run : links.points .parentCount 5 ⟨[0, 0], [0]⟩ =
      .ok [some ⟨[0, 0], [0]⟩, some ⟨[0, 1], [0, 0]⟩, some ⟨[1], [0, 0, 0]⟩, none] := by cbv
  obtain ⟨⟨later, trail, _⟩, _⟩ := fold_ends .parentCount made ⟨[0, 0], [0]⟩ (by decide)
  have shown := Except.ok.inj ((trail.points 5 (Nat.le_of_eq measure)).symm.trans run)
  have points := congrArg (List.filterMap id) shown
  have later : later = [⟨[0, 1], [0, 0]⟩, ⟨[1], [0, 0, 0]⟩] := by
    split at points <;> simpa [List.filterMap_append] using points
  exact ⟨links, made, measure, later ▸ trail, run⟩

end BoxTree
