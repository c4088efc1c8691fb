import BoxTree.Proofs.LinkFacts

/-! What one step of the fold does, why a run ends, and what holds of the work at every point of a run
from the roots. -/

namespace BoxTree

variable {α : Type} [DecidableEq α]

namespace Links

variable {links : Links α} {order : QueueOrder} {work next : Work α} {id : α}

theorem arrange_perm (links : Links α) (order : QueueOrder) (queue : List α) :
    (links.arrange order queue).Perm queue := by
  cases order with
  | insertion => exact .refl _
  | parentCount =>
    rw [arrange_parentCount]
    exact List.mergeSort_perm _ _

/-- A step takes a waiting node whose parents are all taken. The others go on waiting, and behind them
the children of the node that are new. -/
structure Takes (links : Links α) (work : Work α) (id : α) (next : Work α) : Prop where
  waited : id ∈ work.queue
  ready : ∀ parent, Arc links.arcs parent id → parent ∈ work.reached
  reached : next.reached = work.reached ++ [id]
  queue : ∃ waiting, waiting.Perm (work.queue.erase id) ∧
    next.queue = waiting ++ (links.children id).filter (· ∉ waiting ++ next.reached)

theorem takes_of_step (advanced : links.step order work = some next) : ∃ id, links.Takes work id next := by
  simp only [step] at advanced
  split at advanced
  next => cases advanced
  next id found =>
    cases advanced
    have arranged := links.arrange_perm order work.queue
    have ready : links.isReady work.reached id = true := List.find?_some found
    exact ⟨id, arranged.subset (List.mem_of_find?_eq_some found), isReady_iff.mp ready, rfl,
      _, arranged.erase id, rfl⟩

theorem blocked_of_step (stuck : links.step order work = none) (waits : id ∈ work.queue) :
    ∃ parent, Arc links.arcs parent id ∧ parent ∉ work.reached := by
  simp only [step] at stuck
  split at stuck
  next found =>
    have blocked := List.find?_eq_none.mp found id ((links.arrange_perm order work.queue).mem_iff.mpr waits)
    simpa [isReady_iff] using blocked
  next => cases stuck

/-- A step lists exactly those children of its node that were not listed before, once each. -/
theorem Takes.fresh (taken : links.Takes work id next) :
    ∃ fresh : List α, fresh.Nodup ∧
      (∀ child, child ∈ fresh ↔ Arc links.arcs id child ∧ child ∉ work.queue ++ work.reached) ∧
      (next.queue ++ next.reached).Perm (fresh ++ (work.queue ++ work.reached)) := by
  obtain ⟨waiting, kept, queue⟩ := taken.queue
  have same : (waiting ++ next.reached).Perm (work.queue ++ work.reached) := by
    calc waiting ++ next.reached
      _ = waiting ++ (work.reached ++ [id]) := by rw [taken.reached]
      List.Perm _ (work.queue.erase id ++ id :: work.reached) := kept.append List.perm_append_comm
      List.Perm _ (id :: work.queue.erase id ++ work.reached) := List.perm_middle
      List.Perm _ (work.queue ++ work.reached) := (List.perm_cons_erase taken.waited).symm.append_right _
  refine ⟨(links.children id).filter (· ∉ waiting ++ next.reached), (links.nodup_children id).filter _, ?_, ?_⟩
  · intro child
    rw [List.mem_filter, mem_children, decide_eq_true_iff, same.mem_iff]
  · rw [queue, List.append_assoc]
    calc waiting ++ ((links.children id).filter (· ∉ waiting ++ next.reached) ++ next.reached)
      List.Perm _ ((links.children id).filter (· ∉ waiting ++ next.reached) ++ (waiting ++ next.reached)) := by
        rw [← List.append_assoc, ← List.append_assoc]
        exact List.perm_append_comm.append_right _
      List.Perm _ _ := same.append_left _

theorem Takes.mem_listed (taken : links.Takes work id next) {other : α} :
    other ∈ next.queue ++ next.reached ↔ other ∈ work.queue ++ work.reached ∨ Arc links.arcs id other := by
  obtain ⟨fresh, _, member, listed⟩ := taken.fresh
  rw [listed.mem_iff, List.mem_append, member]
  tauto

theorem Takes.once (taken : links.Takes work id next) (once : (work.queue ++ work.reached).Nodup) :
    (next.queue ++ next.reached).Nodup := by
  obtain ⟨fresh, unique, member, listed⟩ := taken.fresh
  rw [listed.nodup_iff, List.nodup_append]
  exact ⟨unique, once, fun child new old before same => ((member child).mp new).2 (same ▸ before)⟩

private theorem mem_unlisted {other : α} :
    other ∈ links.unlisted work ↔ other ∈ links.ids ∧ other ∉ work.queue ++ work.reached := by
  rw [unlisted, List.mem_filter, decide_eq_true_iff]

private theorem nodup_unlisted (links : Links α) (unique : links.ids.Nodup) (work : Work α) :
    (links.unlisted work).Nodup :=
  unique.filter _

theorem remaining_of_step (unique : links.ids.Nodup) (advanced : links.step order work = some next) :
    links.remaining next + 1 = links.remaining work := by
  obtain ⟨id, taken⟩ := takes_of_step advanced
  obtain ⟨fresh, distinct, member, listed⟩ := taken.fresh
  have unlisted : (links.unlisted work).Perm (fresh ++ links.unlisted next) := by
    apply (List.perm_ext_iff_of_nodup (links.nodup_unlisted unique work) ?_).mpr
    · intro other
      rw [List.mem_append, mem_unlisted, mem_unlisted, taken.mem_listed, member]
      have known : Arc links.arcs id other → other ∈ links.ids := fun arc => mem_ids_of_touched arc.touched_target
      tauto
    · apply List.nodup_append.mpr
      refine ⟨distinct, links.nodup_unlisted unique next, ?_⟩
      rintro child new _ old rfl
      rw [mem_unlisted, taken.mem_listed] at old
      exact old.2 (.inr ((member child).mp new).1)
  have lists := listed.length_eq
  have others := unlisted.length_eq
  simp only [List.length_append, taken.reached, List.length_singleton] at lists others
  simp only [remaining]
  omega

/-- Work on which no step can be made: nothing waits, or nothing that waits is ready. -/
def Settled (links : Links α) (order : QueueOrder) (work : Work α) : Prop :=
  work.isDone = true ∨ links.step order work = none

private theorem advance_settled (unique : links.ids.Nodup) (bound : Nat) (work : Work α)
    (enough : links.remaining work ≤ bound) : links.Settled order (links.advance order bound work) := by
  induction bound generalizing work with
  | zero =>
    have nothing : work.queue = [] := List.length_eq_zero_iff.mp (by simp only [remaining] at enough; omega)
    exact .inl (by simp [advance, Work.isDone, nothing])
  | succ bound ih =>
    simp only [advance]
    split
    next done => exact .inl done
    next =>
      split
      next stuck => exact .inr stuck
      next next advanced =>
        have fewer := remaining_of_step unique advanced
        exact ih next (by omega)

theorem run_settled (unique : links.ids.Nodup) (work : Work α) : links.Settled order (links.run order work) :=
  advance_settled unique _ work (Nat.le_refl _)

theorem run_keeps_of_step {kept : Work α → Prop}
    (step : ∀ work next, kept work → links.step order work = some next → kept next) (start : kept work) :
    kept (links.run order work) := by
  have keeps (bound : Nat) (work : Work α) (start : kept work) : kept (links.advance order bound work) := by
    induction bound generalizing work with
    | zero => exact start
    | succ bound ih =>
      simp only [advance]
      split
      · exact start
      · split
        next => exact start
        next next advanced => exact ih next (step work next start advanced)
  exact keeps _ work start

private theorem run_keeps {kept : Work α → Prop}
    (step : ∀ work id next, kept work → links.Takes work id next → kept next) (start : kept work) :
    kept (links.run order work) := by
  refine run_keeps_of_step ?_ start
  intro work next kept advanced
  obtain ⟨id, taken⟩ := takes_of_step advanced
  exact step work id next kept taken

/-- What holds of the work at every point of a run from the roots: no node is listed twice, taken nodes
come after their parents, and what waits is a root or a child of a taken node. -/
structure Sound (links : Links α) (work : Work α) : Prop where
  once : (work.queue ++ work.reached).Nodup
  parentsFirst : ParentsFirst links.arcs work.reached
  touched : ∀ id ∈ work.queue ++ work.reached, Touched links.arcs id
  roots : ∀ id, IsRoot links.arcs id → id ∈ work.queue ++ work.reached
  children : ∀ id ∈ work.reached, ∀ child, Arc links.arcs id child → child ∈ work.queue ++ work.reached
  waiting : ∀ id ∈ work.queue, IsRoot links.arcs id ∨ ∃ parent ∈ work.reached, Arc links.arcs parent id

theorem sound_start (unique : links.ids.Nodup) : links.Sound ⟨links.roots, []⟩ where
  once := by simpa [roots] using unique.filter _
  parentsFirst := by simp [ParentsFirst]
  touched id member := (mem_roots.mp (by simpa using member)).touched
  roots id isRoot := by simpa using isRoot
  children := by simp
  waiting id member := .inl (mem_roots.mp member)

theorem Sound.step (sound : links.Sound work) (taken : links.Takes work id next) : links.Sound next where
  once := taken.once sound.once
  parentsFirst := by
    rw [taken.reached]
    exact ParentsFirst.concat sound.parentsFirst taken.ready
  touched other member := by
    rcases taken.mem_listed.mp member with old | arc
    · exact sound.touched other old
    · exact arc.touched_target
  roots other isRoot := taken.mem_listed.mpr (.inl (sound.roots other isRoot))
  children other member child arc := by
    rw [taken.reached, List.mem_append, List.mem_singleton] at member
    apply taken.mem_listed.mpr
    rcases member with old | rfl
    · exact .inl (sound.children other old child arc)
    · exact .inr arc
  waiting other member := by
    obtain ⟨waiting, kept, queue⟩ := taken.queue
    rw [queue, List.mem_append, List.mem_filter, mem_children] at member
    rw [taken.reached]
    rcases member with old | ⟨arc, _⟩
    · rcases sound.waiting other (List.mem_of_mem_erase (kept.subset old)) with isRoot | ⟨parent, reached, arc⟩
      · exact .inl isRoot
      · exact .inr ⟨parent, List.mem_append_left _ reached, arc⟩
    · exact .inr ⟨id, List.mem_append_right _ (List.mem_singleton.mpr rfl), arc⟩

theorem sound_run (unique : links.ids.Nodup) (order : QueueOrder) :
    links.Sound (links.run order ⟨links.roots, []⟩) :=
  run_keeps (fun _ _ _ sound taken => sound.step taken) (sound_start unique)

end Links
end BoxTree
