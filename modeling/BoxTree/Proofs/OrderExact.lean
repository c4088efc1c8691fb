import BoxTree.Proofs.OrderSteps

/-! The linear order holds exactly the connected nodes without a cycle behind them, and its error tells
which kind of cycle keeps the others out. -/

namespace BoxTree

variable {α β : Type}

/-- What a linear order of nodes and arcs has to be. Without an error it holds every connected node.
The error follows from where the cycles are: with no root at all, all connected nodes wait on one; a
cycle that hangs together with a root blocks the children of nodes taken; other cycles leave whole
parts without a root. -/
structure Linearization.Exact (ids : List α) (arcs : List (α × α)) (result : Linearization α) : Prop where
  once : result.order.Nodup
  parentsFirst : ParentsFirst arcs result.order
  members : ∀ id, id ∈ result.order ↔ Touched arcs id ∧ Grounded arcs id
  complete : result.error = none ↔ Acyclic arcs
  rootless : ¬ Acyclic arcs → (∀ id, ¬ IsRoot arcs id) →
    ∃ waiting witness, result.error = some (.cycle waiting witness) ∧ waiting.Sublist ids ∧
      ∀ id, id ∈ waiting ↔ Touched arcs id
  stuck : (∃ root id, IsRoot arcs root ∧ Joined arcs root id ∧ OnCycle arcs id) →
    ∃ waiting witness, result.error = some (.cycle waiting witness) ∧ waiting.Nodup ∧
      ∀ id, id ∈ waiting ↔ id ∉ result.order ∧ ∃ parent ∈ result.order, Arc arcs parent id
  stranded : ¬ Acyclic arcs → (∃ root, IsRoot arcs root) →
    (∀ root id, IsRoot arcs root → Joined arcs root id → ¬ OnCycle arcs id) →
    ∃ missed, result.error = some (.unreachable missed) ∧ missed.Sublist ids ∧
      ∀ id, id ∈ missed ↔ Touched arcs id ∧ ∀ root, IsRoot arcs root → ¬ Joined arcs root id

theorem Linearization.Exact.cycle_behind {ids : List α} {arcs : List (α × α)} {result : Linearization α}
    (exact : result.Exact ids arcs) {id : α} (touched : Touched arcs id) (missing : id ∉ result.order) :
    ∃ ancestor, Leads arcs ancestor id ∧ OnCycle arcs ancestor := by
  by_contra none
  exact missing ((exact.members id).mpr ⟨touched, fun ancestor path cycle => none ⟨ancestor, path, cycle⟩⟩)

variable [DecidableEq α]

namespace Links

variable {links : Links α} {order : QueueOrder} {work : Work α} {id : α}

theorem Settled.blocked (settled : links.Settled order work) (waits : id ∈ work.queue) :
    ∃ parent, Arc links.arcs parent id ∧ parent ∉ work.reached := by
  rcases settled with done | stuck
  · rw [Work.isDone, List.isEmpty_iff] at done
    rw [done] at waits
    cases waits
  · exact blocked_of_step stuck waits

namespace Sound

private theorem missing_parent (sound : links.Sound work) (settled : links.Settled order work)
    (touched : Touched links.arcs id) (missing : id ∉ work.reached) :
    ∃ parent, Arc links.arcs parent id ∧ parent ∉ work.reached := by
  by_cases waits : id ∈ work.queue
  · exact settled.blocked waits
  · have unlisted : id ∉ work.queue ++ work.reached := by simp [waits, missing]
    obtain ⟨parent, arc⟩ := touched.parent fun isRoot => unlisted (sound.roots id isRoot)
    exact ⟨parent, arc, fun reached => unlisted (sound.children parent reached id arc)⟩

/-- Once no step can be made, exactly the connected nodes without a cycle behind them are taken: from
any other one, missing parents lead back forever. -/
theorem mem_reached (sound : links.Sound work) (settled : links.Settled order work) :
    id ∈ work.reached ↔ Touched links.arcs id ∧ Grounded links.arcs id := by
  constructor
  · intro member
    exact ⟨sound.touched id (List.mem_append_right _ member), sound.parentsFirst.grounded member⟩
  · intro given
    obtain ⟨touched, grounded⟩ := given
    by_contra missing
    let kept (ancestor : α) := Leads links.arcs ancestor id ∧ Touched links.arcs ancestor ∧ ancestor ∉ work.reached
    have finite : ∀ ancestor, kept ancestor → ancestor ∈ links.ids := fun _ kept => mem_ids_of_touched kept.2.1
    have first : kept id := ⟨.refl, touched, missing⟩
    obtain ⟨ancestor, member, cycle⟩ := exists_onCycle finite first fun ancestor member => by
      obtain ⟨parent, arc, absent⟩ := sound.missing_parent settled member.2.1 member.2.2
      exact ⟨parent, ⟨.head arc member.1, arc.touched_source, absent⟩, arc⟩
    exact grounded ancestor member.1 cycle

private theorem mem_queue (sound : links.Sound work) (settled : links.Settled order work) :
    id ∈ work.queue ↔ id ∉ work.reached ∧ ∃ parent ∈ work.reached, Arc links.arcs parent id := by
  constructor
  · intro waits
    obtain ⟨parent, arc, _⟩ := settled.blocked waits
    constructor
    · intro reached
      exact (List.nodup_append.mp sound.once).2.2 id waits id reached rfl
    · exact (sound.waiting id waits).resolve_left fun isRoot => isRoot.entered parent arc
  · intro given
    obtain ⟨missing, parent, reached, arc⟩ := given
    exact (List.mem_append.mp (sound.children parent reached id arc)).resolve_right missing

/-- A cycle that hangs together with a root keeps a child of a taken node waiting. -/
theorem queue_ne_nil (sound : links.Sound work) (settled : links.Settled order work) {root : α}
    (isRoot : IsRoot links.arcs root) (joined : Joined links.arcs root id) (cycle : OnCycle links.arcs id) :
    work.queue ≠ [] := by
  have first : root ∈ work.reached := (sound.mem_reached settled).mpr ⟨isRoot.touched, isRoot.grounded⟩
  have last : id ∉ work.reached := fun member => sound.parentsFirst.not_onCycle member cycle
  obtain ⟨left, right, _, inside, outside, arc | arc⟩ := joined.crosses (· ∈ work.reached) first last
  · exact List.ne_nil_of_mem ((sound.mem_queue settled).mpr ⟨outside, left, inside, arc⟩)
  · exact False.elim (outside (sound.parentsFirst.parent_mem inside arc))

theorem queue_eq_nil (sound : links.Sound work) (settled : links.Settled order work)
    (apart : ∀ root id, IsRoot links.arcs root → Joined links.arcs root id → ¬ OnCycle links.arcs id) :
    work.queue = [] := by
  rw [List.eq_nil_iff_forall_not_mem]
  intro id waits
  obtain ⟨missing, parent, reached, arc⟩ := (sound.mem_queue settled).mp waits
  obtain ⟨touched, grounded⟩ := (sound.mem_reached settled).mp reached
  obtain ⟨root, isRoot, path⟩ := grounded.exists_root touched
  apply missing
  apply (sound.mem_reached settled).mpr
  refine ⟨arc.touched_target, ?_⟩
  intro ancestor behind cycle
  exact apart root ancestor isRoot ((path.joined.trans arc.joined).trans behind.joined.symm) cycle

end Sound

private theorem mem_missed {reached : List α} :
    id ∈ links.connected.filter (· ∉ reached) ↔ Touched links.arcs id ∧ id ∉ reached := by
  rw [List.mem_filter, mem_connected, decide_eq_true_iff]

def errorOf (links : Links α) (work : Work α) : Option (OrderError α) :=
  if !work.isDone then some (.cycle work.queue (links.cycleBehind work.queue))
  else if (links.connected.filter (· ∉ work.reached)).isEmpty then none
  else some (.unreachable (links.connected.filter (· ∉ work.reached)))

private theorem errorOf_waiting (waiting : work.queue ≠ []) :
    links.errorOf work = some (.cycle work.queue (links.cycleBehind work.queue)) := by
  simp [errorOf, Work.isDone, waiting]

private theorem errorOf_done (done : work.queue = []) (missed : links.connected.filter (· ∉ work.reached) ≠ []) :
    links.errorOf work = some (.unreachable (links.connected.filter (· ∉ work.reached))) := by
  simp only [errorOf, Work.isDone, done, List.isEmpty_nil, Bool.not_true, Bool.false_eq_true, if_false,
    List.isEmpty_iff, missed]

private theorem errorOf_eq_none :
    links.errorOf work = none ↔ work.queue = [] ∧ links.connected.filter (· ∉ work.reached) = [] := by
  unfold errorOf
  split
  next waiting => simpa [Work.isDone] using fun done => False.elim (by simp [Work.isDone, done] at waiting)
  next done =>
    have done : work.queue = [] := by simpa [Work.isDone] using done
    split <;> simp_all

private theorem errorOf_eq_none_iff_acyclic (sound : links.Sound work) (settled : links.Settled order work) :
    links.errorOf work = none ↔ Acyclic links.arcs := by
  rw [errorOf_eq_none]
  constructor
  · rintro ⟨_, missed⟩ id cycle
    have member : id ∈ links.connected.filter (· ∉ work.reached) :=
      mem_missed.mpr ⟨cycle.touched, fun member => sound.parentsFirst.not_onCycle member cycle⟩
    rw [missed] at member
    cases member
  · intro acyclic
    constructor
    · exact sound.queue_eq_nil settled fun _ id _ _ => acyclic id
    · rw [List.eq_nil_iff_forall_not_mem]
      intro id member
      obtain ⟨touched, missing⟩ := mem_missed.mp member
      apply missing
      exact (sound.mem_reached settled).mpr ⟨touched, acyclic.grounded id⟩

/-- Without roots there is no order, and every connected node waits. -/
theorem exact_rootless (rootless : ∀ id, ¬ IsRoot links.arcs id) (touched : Touched links.arcs id)
    (witness : List α) :
    Linearization.Exact links.ids links.arcs
      ⟨[], [], links.disconnected, some (.cycle links.connected witness)⟩ where
  once := .nil
  parentsFirst := by simp [ParentsFirst]
  members other := by
    constructor
    · intro member
      cases member
    · intro given
      obtain ⟨touched, grounded⟩ := given
      obtain ⟨root, isRoot, _⟩ := grounded.exists_root touched
      exact False.elim (rootless root isRoot)
  complete := by
    constructor
    · intro none
      cases none
    · intro acyclic
      obtain ⟨root, isRoot, _⟩ := (acyclic.grounded id).exists_root touched
      exact False.elim (rootless root isRoot)
  rootless _ _ := ⟨_, _, rfl, connected_sublist, fun _ => mem_connected⟩
  stuck := by
    intro given
    obtain ⟨root, _, isRoot, _⟩ := given
    exact False.elim (rootless root isRoot)
  stranded := by
    rintro _ ⟨root, isRoot⟩
    exact False.elim (rootless root isRoot)

/-- Work on which no step can be made gives the order, and its error the reason why it is not complete. -/
theorem exact_settled (sound : links.Sound work) (settled : links.Settled order work)
    (rooted : ∀ id, Touched links.arcs id → ∃ root, IsRoot links.arcs root) :
    Linearization.Exact links.ids links.arcs
      ⟨work.reached, links.roots, links.disconnected, links.errorOf work⟩ where
  once := (List.nodup_append.mp sound.once).2.1
  parentsFirst := sound.parentsFirst
  members _ := sound.mem_reached settled
  complete := errorOf_eq_none_iff_acyclic sound settled
  rootless cyclic rootless := by
    exfalso
    apply cyclic
    intro id cycle
    obtain ⟨root, isRoot⟩ := rooted id cycle.touched
    exact rootless root isRoot
  stuck := by
    intro given
    obtain ⟨root, id, isRoot, joined, cycle⟩ := given
    exact ⟨_, _, errorOf_waiting (sound.queue_ne_nil settled isRoot joined cycle),
      (List.nodup_append.mp sound.once).1, fun _ => sound.mem_queue settled⟩
  stranded cyclic _ apart := by
    have members : ∀ id, id ∈ links.connected.filter (· ∉ work.reached) ↔
        Touched links.arcs id ∧ ∀ root, IsRoot links.arcs root → ¬ Joined links.arcs root id := by
      intro id
      rw [mem_missed]
      apply and_congr_right
      intro touched
      constructor
      · intro missing root isRoot joined
        apply missing
        apply (sound.mem_reached settled).mpr
        exact ⟨touched, fun ancestor path => apart root ancestor isRoot (joined.trans path.joined.symm)⟩
      · intro alone reached
        obtain ⟨root, isRoot, path⟩ := ((sound.mem_reached settled).mp reached).2.exists_root touched
        exact alone root isRoot path.joined
    have done := sound.queue_eq_nil settled apart
    refine ⟨_, errorOf_done done ?_, List.filter_sublist.trans connected_sublist, members⟩
    intro none
    apply cyclic
    exact (errorOf_eq_none_iff_acyclic sound settled).mp (errorOf_eq_none.mpr ⟨done, none⟩)

theorem linearize_eq (links : Links α) (order : QueueOrder) :
    links.linearize order =
      if links.roots.isEmpty && !links.connected.isEmpty then
        ⟨[], [], links.disconnected, some (.cycle links.connected (links.cycleBehind links.connected))⟩
      else
        ⟨(links.run order ⟨links.roots, []⟩).reached, links.roots, links.disconnected,
          links.errorOf (links.run order ⟨links.roots, []⟩)⟩ := rfl

theorem exact_linearize (unique : links.ids.Nodup) (order : QueueOrder) :
    (links.linearize order).Exact links.ids links.arcs := by
  rw [linearize_eq]
  split
  next rootless =>
    simp only [Bool.and_eq_true, List.isEmpty_iff, Bool.not_eq_true', List.isEmpty_eq_false_iff_exists_mem] at rootless
    obtain ⟨none, id, connected⟩ := rootless
    apply exact_rootless _ (mem_connected.mp connected)
    intro root isRoot
    have member := mem_roots.mpr isRoot
    rw [none] at member
    cases member
  next rooted =>
    apply exact_settled (sound_run unique order) (run_settled unique _)
    intro id touched
    by_contra none
    have roots : links.roots = [] :=
      List.eq_nil_iff_forall_not_mem.mpr fun root member => none ⟨root, mem_roots.mp member⟩
    have connected : links.connected ≠ [] := List.ne_nil_of_mem (mem_connected.mpr touched)
    simp [roots, connected] at rooted

/-- A cycle is reported with nodes that are connected and not in the order, and with what the search
behind them finds. -/
theorem waiting_of_error (unique : links.ids.Nodup) {waiting witness : List α}
    (reported : (links.linearize order).error = some (.cycle waiting witness)) :
    witness = links.cycleBehind waiting ∧ waiting ≠ [] ∧
      ∀ id ∈ waiting, Touched links.arcs id ∧ id ∉ (links.linearize order).order := by
  rw [linearize_eq] at reported ⊢
  split at reported
  next rootless =>
    cases reported
    rw [if_pos rootless]
    rw [Bool.and_eq_true, Bool.not_eq_true', ← Bool.not_eq_true, List.isEmpty_iff, List.isEmpty_iff] at rootless
    exact ⟨rfl, rootless.2, fun id member => ⟨mem_connected.mp member, List.not_mem_nil⟩⟩
  next rooted =>
    rw [if_neg rooted]
    have sound := links.sound_run unique order
    have settled : links.Settled order (links.run order ⟨links.roots, []⟩) := run_settled unique _
    by_cases done : (links.run order ⟨links.roots, []⟩).queue = []
    · by_cases missed : links.connected.filter (· ∉ (links.run order ⟨links.roots, []⟩).reached) = []
      · rw [errorOf_eq_none.mpr ⟨done, missed⟩] at reported
        cases reported
      · rw [errorOf_done done missed] at reported
        cases reported
    · rw [errorOf_waiting done] at reported
      cases reported
      refine ⟨rfl, done, ?_⟩
      intro id waits
      constructor
      · exact sound.touched id (List.mem_append_left _ waits)
      · exact ((sound.mem_queue settled).mp waits).1

end Links

theorem linearize_eq_ok (nodes : List (Node α β)) (edges : List (Edge α)) (queueOrder : QueueOrder)
    (closed : ∀ edge ∈ edges, edge.source ∈ nodes.map (·.id) ∧ edge.target ∈ nodes.map (·.id)) :
    ∃ links : Links α, links.ids = nodes.map (·.id) ∧ links.arcs = edges.map (·.arc) ∧
      linearize nodes edges queueOrder = .ok (links.linearize queueOrder) := by
  obtain ⟨links, found, ids, arcs⟩ := Links.ofFragment_eq_ok nodes edges closed
  refine ⟨links, ids, arcs, ?_⟩
  rw [linearize, found]
  rfl

/-- Linearizing distinct nodes and edges between them always gives a result, and it is the exact one. The
nodes in the order do not depend on the queue order or on how nodes and edges are listed. -/
theorem linearize_exact (nodes : List (Node α β)) (edges : List (Edge α)) (queueOrder : QueueOrder)
    (unique : (nodes.map (·.id)).Nodup)
    (closed : ∀ edge ∈ edges, edge.source ∈ nodes.map (·.id) ∧ edge.target ∈ nodes.map (·.id)) :
    ∃ result, linearize nodes edges queueOrder = .ok result ∧
      result.Exact (nodes.map (·.id)) (edges.map (·.arc)) ∧
      ∀ (otherNodes : List (Node α β)) (otherEdges : List (Edge α)) (otherOrder : QueueOrder),
        otherNodes.Perm nodes → otherEdges.Perm edges →
        ∃ other, linearize otherNodes otherEdges otherOrder = .ok other ∧ other.order.Perm result.order := by
  obtain ⟨links, ids, arcs, found⟩ := linearize_eq_ok nodes edges queueOrder closed
  have exact := links.exact_linearize (ids ▸ unique) queueOrder
  refine ⟨_, found, by simpa only [ids, arcs] using exact, ?_⟩
  intro otherNodes otherEdges otherOrder sameNodes sameEdges
  have mapped := sameNodes.map (·.id)
  obtain ⟨others, otherIds, otherArcs, otherFound⟩ := linearize_eq_ok otherNodes otherEdges otherOrder
    fun edge member => by simpa only [mapped.mem_iff] using closed edge (sameEdges.mem_iff.mp member)
  have otherExact := others.exact_linearize (otherIds ▸ mapped.nodup_iff.mpr unique) otherOrder
  refine ⟨_, otherFound, ?_⟩
  apply (List.perm_ext_iff_of_nodup otherExact.once exact.once).mpr
  intro id
  have sameArcs := sameEdges.map (·.arc)
  rw [otherExact.members, exact.members, otherArcs, arcs]
  constructor
  · intro given
    obtain ⟨touched, grounded⟩ := given
    exact ⟨touched.mono sameArcs.subset, grounded.anti sameArcs.symm.subset⟩
  · intro given
    obtain ⟨touched, grounded⟩ := given
    exact ⟨touched.mono sameArcs.symm.subset, grounded.anti sameArcs.subset⟩

/-- A root that leads into a loop. -/
theorem linearize_exact_loop :
    ∃ result, linearize ([⟨0, .gate .not⟩, ⟨1, .gate .not⟩, ⟨2, .gate .not⟩] : List (Node Nat Unit))
        [⟨0, 1, none, none, none⟩, ⟨1, 2, none, none, none⟩, ⟨2, 1, none, none, none⟩] .parentCount = .ok result ∧
      result.Exact [0, 1, 2] [(0, 1), (1, 2), (2, 1)] := by
  obtain ⟨result, found, exact, _⟩ := linearize_exact
    ([⟨0, .gate .not⟩, ⟨1, .gate .not⟩, ⟨2, .gate .not⟩] : List (Node Nat Unit))
    [⟨0, 1, none, none, none⟩, ⟨1, 2, none, none, none⟩, ⟨2, 1, none, none, none⟩] .parentCount (by decide) (by decide)
  exact ⟨result, found, exact⟩

end BoxTree
