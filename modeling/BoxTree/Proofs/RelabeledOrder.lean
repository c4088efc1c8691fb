import BoxTree.Graph.Reach
import BoxTree.Proofs.OrderExact
import Mathlib

/-! Searches tell ids apart and do nothing else with them. So regions, components, cycles and linear orders of
renamed links are the renamed ones, in the same order. -/

namespace BoxTree

variable {α δ : Type} [DecidableEq α] [DecidableEq δ] {f : α → δ}

section Lists

variable (injective : Function.Injective f)
include injective

theorem eraseDups_map (ids : List α) : (ids.map f).eraseDups = ids.eraseDups.map f :=
  eraseDups_map_of_injOn fun _ _ _ _ same => injective same

private theorem targets_map (arcs : List (α × α)) (id : α) :
    targets (arcs.map (Prod.map f f)) (f id) = (targets arcs id).map f := by
  simp [targets, List.filter_map, Function.comp_def, injective.eq_iff]

private theorem spread_map (arcs : List (α × α)) (unseen pending : List α) :
    spread (arcs.map (Prod.map f f)) (unseen.map f) (pending.map f) = (spread arcs unseen pending).map f := by
  induction unseen, pending using spread.induct arcs with
  | case1 unseen => simp [spread]
  | case2 unseen id pending member ih =>
    rw [List.map_append, List.map_erase injective, ← targets_map injective] at ih
    rw [List.map_cons, spread, if_pos (List.mem_map_of_mem member), ih, spread, if_pos member, List.map_cons]
  | case3 unseen id pending member ih =>
    have absent : f id ∉ unseen.map f := by rwa [List.mem_map_of_injective injective]
    rw [List.map_cons, spread, if_neg absent, ih, spread, if_neg member]

theorem region_map (nodes : List α) (arcs : List (α × α)) (id : α) :
    region (nodes.map f) (arcs.map (Prod.map f f)) (f id) = (region nodes arcs id).map f :=
  spread_map injective arcs nodes [id]

omit injective [DecidableEq α] [DecidableEq δ] in
private theorem bothWays_map (arcs : List (α × α)) :
    bothWays (arcs.map (Prod.map f f)) = (bothWays arcs).map (Prod.map f f) := by
  simp only [bothWays, List.map_flatMap, List.flatMap_map]
  rfl

private theorem groups_map (domain : List α) (arcs : List (α × α)) (nodes : List α) :
    groups (domain.map f) (arcs.map (Prod.map f f)) (nodes.map f) = (groups domain arcs nodes).map (List.map f) := by
  induction nodes using groups.induct domain arcs with
  | case1 => simp [groups]
  | case2 id rest near ih =>
    -- The recursion carries proofs of membership along; the hypothesis is wanted for the plain list.
    rw [@List.unattach_filter _ _ rest.attach _ (fun other => decide (other ∉ near)) fun _ _ => rfl,
      List.unattach_attach] at ih
    have near_map : region (domain.map f) (bothWays (arcs.map (Prod.map f f))) (f id) = near.map f := by
      rw [bothWays_map]
      exact region_map injective domain (bothWays arcs) id
    rw [List.map_cons, groups, groups]
    simp only [near_map, List.filter_map, Function.comp_def, List.mem_map_of_injective injective, List.map_cons]
    rw [ih]

theorem components_map (nodes : List α) (arcs : List (α × α)) :
    components (nodes.map f) (arcs.map (Prod.map f f)) = (components nodes arcs).map (List.map f) := by
  simp only [components, groups_map injective, List.filter_map, Function.comp_def, List.any_map, Prod.map_fst,
    List.mem_map_of_injective injective]

private theorem walk_map (stack : List α) (unused : List (α × α)) :
    walk (stack.map f) (unused.map (Prod.map f f)) = (walk stack unused).map (Prod.map f f) := by
  have found_map (top : α) (unused : List (α × α)) :
      (unused.map (Prod.map f f)).find? (fun arc => arc.1 = f top) =
        (unused.find? fun arc => arc.1 = top).map (Prod.map f f) := by
    simp only [List.find?_map, Function.comp_def, Prod.map_fst, injective.eq_iff]
  induction stack, unused using walk.induct with
  | case1 unused => simp [walk]
  | case2 top stack unused found ih =>
    rw [List.map_cons, walk, found_map, found, walk, found]
    exact ih
  | case3 top stack unused arc found ih =>
    rw [List.map_erase (injective.prodMap injective)] at ih
    rw [List.map_cons, walk, found_map, found, walk, found]
    exact congrArg (_ :: ·) ih

end Lists

namespace Trail

def rename (f : α → δ) (trail : Trail α) : Trail δ := ⟨f trail.start, trail.arcs.map (Prod.map f f)⟩

omit [DecidableEq α] [DecidableEq δ] in
private theorem head_rename (trail : Trail α) : (trail.rename f).head = f trail.head := by
  obtain ⟨start, arcs⟩ := trail
  cases arcs <;> rfl

omit [DecidableEq α] [DecidableEq δ] in
private theorem nodes_rename (trail : Trail α) : (trail.rename f).nodes = trail.nodes.map f := by
  simp [rename, nodes]

variable (injective : Function.Injective f)
include injective

private theorem backTo_rename (trail : Trail α) (id : α) :
    (trail.rename f).backTo (f id) = (trail.backTo id).rename f := by
  have kept : (trail.arcs.map (Prod.map f f)).dropWhile (·.2 ≠ f id) =
      (trail.arcs.dropWhile (·.2 ≠ id)).map (Prod.map f f) := by
    simp only [List.dropWhile_map, Function.comp_def, Prod.map_snd, ne_eq, injective.eq_iff]
  unfold backTo
  rw [rename, kept]
  cases trail.arcs.dropWhile (·.2 ≠ id) <;> rfl

private theorem closing_rename (trail : Trail α) (arc : α × α) :
    (trail.rename f).closing (Prod.map f f arc) = (trail.closing arc).map (Prod.map f f) := by
  rw [closing, closing, rename, ← List.map_cons, ← List.map_reverse]
  simp only [List.dropWhile_map, Function.comp_def, Prod.map_fst, Prod.map_snd, ne_eq, injective.eq_iff]

end Trail

section Cycles

variable (injective : Function.Injective f)
include injective

private theorem closeCycle?_map (explored : List α) (trail : Trail α) (arcs : List (α × α)) :
    closeCycle? (explored.map f) (trail.rename f) (arcs.map (Prod.map f f)) =
      (closeCycle? explored trail arcs).map (List.map (Prod.map f f)) := by
  induction arcs generalizing trail with
  | nil => rfl
  | cons arc rest ih =>
    have moved : (if f arc.1 = (trail.rename f).head then trail.rename f else (trail.rename f).backTo (f arc.1)) =
        (if arc.1 = trail.head then trail else trail.backTo arc.1).rename f := by
      rw [Trail.head_rename, Trail.backTo_rename injective, apply_ite (Trail.rename f)]
      simp only [injective.eq_iff]
    rw [List.map_cons, closeCycle?, closeCycle?]
    simp only [Prod.map_fst, Prod.map_snd, moved, Trail.nodes_rename, List.mem_map_of_injective injective,
      Trail.closing_rename injective]
    split
    · exact ih trail
    · generalize (if arc.1 = trail.head then trail else trail.backTo arc.1) = kept
      split
      · rfl
      · exact ih ⟨kept.start, arc :: kept.arcs⟩

private theorem findCycle?_map (arcs : List (α × α)) (explored sources : List α) :
    findCycle? (arcs.map (Prod.map f f)) (explored.map f) (sources.map f) =
      (findCycle? arcs explored sources).map (List.map (Prod.map f f)) := by
  induction sources generalizing explored with
  | nil => rfl
  | cons source sources ih =>
    have taken : walk [f source] (arcs.map (Prod.map f f)) = (walk [source] arcs).map (Prod.map f f) :=
      walk_map injective [source] arcs
    have closed := closeCycle?_map injective explored ⟨source, []⟩ (walk [source] arcs)
    have seen : explored.map f ++ f source :: ((walk [source] arcs).map (Prod.map f f)).map (·.2) =
        (explored ++ source :: (walk [source] arcs).map (·.2)).map f := by simp
    rw [List.map_cons, findCycle?, findCycle?]
    simp only [List.mem_map_of_injective injective, taken, seen]
    split
    · exact ih explored
    · rw [show (⟨f source, []⟩ : Trail δ) = (⟨source, []⟩ : Trail α).rename f from rfl, closed]
      cases closeCycle? explored ⟨source, []⟩ (walk [source] arcs) with
      | none => exact ih _
      | some cycle => rfl

end Cycles

namespace Links

def rename (f : α → δ) (links : Links α) : Links δ where
  ids := links.ids.map f
  arcs := links.arcs.map (Prod.map f f)
  closed := by
    intro arc listed
    obtain ⟨old, member, rfl⟩ := List.mem_map.mp listed
    exact ⟨List.mem_map_of_mem (links.closed old member).1, List.mem_map_of_mem (links.closed old member).2⟩

variable (injective : Function.Injective f) (links : Links α)
include injective

private theorem parents_rename (id : α) : (links.rename f).parents (f id) = (links.parents id).map f := by
  simp only [parents, rename, List.filter_map, Function.comp_def, Prod.map_snd, injective.eq_iff, List.map_map,
    ← eraseDups_map injective, Prod.map_fst]

private theorem children_rename (id : α) : (links.rename f).children (f id) = (links.children id).map f := by
  simp only [children, rename, List.filter_map, Function.comp_def, Prod.map_fst, injective.eq_iff, List.map_map,
    ← eraseDups_map injective, Prod.map_snd]

private theorem isDisconnected_rename (id : α) : (links.rename f).isDisconnected (f id) = links.isDisconnected id := by
  simp only [isDisconnected, parents_rename injective, children_rename injective, List.isEmpty_map]

private theorem isRoot_rename (id : α) : (links.rename f).isRoot (f id) = links.isRoot id := by
  simp only [isRoot, parents_rename injective, children_rename injective, List.isEmpty_map]

private theorem disconnected_rename : (links.rename f).disconnected = links.disconnected.map f := by
  rw [disconnected, rename, List.filter_map]
  exact congrArg (List.map f) (List.filter_congr fun id _ => links.isDisconnected_rename injective id)

private theorem roots_rename : (links.rename f).roots = links.roots.map f := by
  rw [roots, rename, List.filter_map]
  exact congrArg (List.map f) (List.filter_congr fun id _ => links.isRoot_rename injective id)

private theorem connected_rename : (links.rename f).connected = links.connected.map f := by
  rw [connected, rename, List.filter_map]
  exact congrArg (List.map f)
    (List.filter_congr fun id _ => congrArg (!·) (links.isDisconnected_rename injective id))

private theorem backward_rename : (links.rename f).backward = links.backward.map (Prod.map f f) := by
  have step (id : α) : ((links.rename f).children (f id)).map (·, f id) =
      ((links.children id).map (·, id)).map (Prod.map f f) := by
    rw [children_rename injective, List.map_map, List.map_map]
    rfl
  rw [backward, backward, List.map_flatMap, rename, List.flatMap_map]
  exact List.flatMap_congr fun id _ => step id

private theorem cycleBehind_rename (nodes : List α) :
    (links.rename f).cycleBehind (nodes.map f) = (links.cycleBehind nodes).map f := by
  have found := findCycle?_map injective links.backward [] nodes
  rw [List.map_nil] at found
  rw [cycleBehind, cycleBehind, backward_rename injective, found]
  cases findCycle? links.backward [] nodes with
  | none => rfl
  | some arcs => simp

private theorem arrange_rename (order : QueueOrder) (queue : List α) :
    (links.rename f).arrange order (queue.map f) = (links.arrange order queue).map f := by
  cases order with
  | insertion => rfl
  | parentCount =>
    rw [arrange_parentCount, arrange_parentCount]
    symm
    apply List.map_mergeSort
    intro left _ right _
    have counted (id : α) : (links.rename f).parentCount (f id) = links.parentCount id := by
      rw [parentCount, parentCount, parents_rename injective, List.length_map]
    rw [counted, counted]

private theorem isReady_rename (reached : List α) (id : α) :
    (links.rename f).isReady (reached.map f) (f id) = links.isReady reached id := by
  simp only [isReady, parents_rename injective, List.all_map, Function.comp_def, List.mem_map_of_injective injective]

end Links

def Work.rename (f : α → δ) (work : Work α) : Work δ := ⟨work.queue.map f, work.reached.map f⟩

omit [DecidableEq α] [DecidableEq δ] in
private theorem Work.isDone_rename (work : Work α) : (work.rename f).isDone = work.isDone := List.isEmpty_map

def OrderError.rename (f : α → δ) : OrderError α → OrderError δ
  | cycle waiting witness => cycle (waiting.map f) (witness.map f)
  | unreachable nodes => unreachable (nodes.map f)

def Linearization.rename (f : α → δ) (result : Linearization α) : Linearization δ :=
  ⟨result.order.map f, result.roots.map f, result.disconnected.map f, result.error.map (.rename f)⟩

namespace Links

variable (injective : Function.Injective f) (links : Links α)
include injective

/-- One step on renamed links takes the renamed node. -/
theorem step_rename (order : QueueOrder) (work : Work α) :
    (links.rename f).step order (work.rename f) = (links.step order work).map (.rename f) := by
  have found : ((links.arrange order work.queue).map f).find? ((links.rename f).isReady (work.reached.map f)) =
      ((links.arrange order work.queue).find? (links.isReady work.reached)).map f := by
    have ready : (links.rename f).isReady (work.reached.map f) ∘ f = links.isReady work.reached :=
      funext (links.isReady_rename injective work.reached)
    rw [List.find?_map, ready]
  simp only [step, Work.rename, arrange_rename injective, found]
  cases (links.arrange order work.queue).find? (links.isReady work.reached) with
  | none => rfl
  | some id =>
    have fresh (listed : List α) : ((links.children id).map f).filter (· ∉ listed.map f) =
        ((links.children id).filter (· ∉ listed)).map f := by
      simp only [List.filter_map, Function.comp_def, List.mem_map_of_injective injective]
    have taken : work.reached.map f ++ [f id] = (work.reached ++ [id]).map f := by simp
    simp only [Option.map_some, children_rename injective, ← List.map_erase injective, taken, ← List.map_append, fresh]
    rfl

private theorem remaining_rename (work : Work α) :
    (links.rename f).remaining (work.rename f) = links.remaining work := by
  simp only [remaining, unlisted, rename, Work.rename, ← List.map_append, List.filter_map, Function.comp_def,
    List.mem_map_of_injective injective, List.length_map]

private theorem advance_rename (order : QueueOrder) (bound : Nat) (work : Work α) :
    (links.rename f).advance order bound (work.rename f) = (links.advance order bound work).rename f := by
  induction bound generalizing work with
  | zero => rfl
  | succ bound ih =>
    rw [advance, advance, Work.isDone_rename, step_rename injective]
    cases links.step order work with
    | none => split <;> rfl
    | some next =>
      split
      · rfl
      · exact ih next

private theorem run_rename (order : QueueOrder) (work : Work α) :
    (links.rename f).run order (work.rename f) = (links.run order work).rename f := by
  rw [run, run, remaining_rename injective, advance_rename injective]

private theorem errorOf_rename (work : Work α) :
    (links.rename f).errorOf (work.rename f) = (links.errorOf work).map (.rename f) := by
  have missed : (links.rename f).connected.filter (· ∉ (work.rename f).reached) =
      (links.connected.filter (· ∉ work.reached)).map f := by
    rw [connected_rename injective, List.filter_map]
    simp only [Work.rename, Function.comp_def, List.mem_map_of_injective injective]
  have behind : (links.rename f).cycleBehind (work.rename f).queue = (links.cycleBehind work.queue).map f :=
    links.cycleBehind_rename injective work.queue
  rw [errorOf, errorOf, Work.isDone_rename, missed, behind, List.isEmpty_map,
    apply_ite (Option.map (OrderError.rename f)), apply_ite (Option.map (OrderError.rename f))]
  rfl

theorem linearize_rename (order : QueueOrder) :
    (links.rename f).linearize order = (links.linearize order).rename f := by
  have ran : (links.rename f).run order ⟨links.roots.map f, []⟩ = (links.run order ⟨links.roots, []⟩).rename f :=
    links.run_rename injective order ⟨links.roots, []⟩
  rw [linearize_eq, linearize_eq, roots_rename injective, connected_rename injective, disconnected_rename injective,
    cycleBehind_rename injective, List.isEmpty_map, List.isEmpty_map, ran, errorOf_rename injective,
    apply_ite (Linearization.rename f)]
  rfl

end Links
end BoxTree
