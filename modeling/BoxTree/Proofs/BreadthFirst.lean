import BoxTree.Proofs.OrderExact

/-! Orders of trees are breadth-first. Where every node has one parent, whatever waits is ready, so nodes are
taken in the order in which they began to wait, and that is level by level. -/

namespace BoxTree

variable {α : Type}

/-- The nodes a number of steps below some nodes, in the order of their parents. -/
def descend (children : α → List α) : Nat → List α → List α
  | 0, nodes => nodes
  | depth + 1, nodes => (descend children depth nodes).flatMap children

/-- The nodes below a root, level by level, down to a number of levels. -/
def levelOrder (children : α → List α) (root : α) (depth : Nat) : List α :=
  (List.range depth).flatMap fun level => descend children level [root]

section Levels

variable {children : α → List α}

private theorem descend_append (depth : Nat) (left right : List α) :
    descend children depth (left ++ right) = descend children depth left ++ descend children depth right := by
  induction depth with
  | zero => rfl
  | succ depth ih => rw [descend, ih, List.flatMap_append, descend, descend]

private theorem descend_succ (depth : Nat) (nodes : List α) :
    descend children (depth + 1) nodes = descend children depth (nodes.flatMap children) := by
  induction depth with
  | zero => rfl
  | succ depth ih => rw [descend, ih, descend]

private theorem descend_map {β : Type} {f : α → β} {others : β → List β} {depth : Nat} {nodes : List α}
    (same : ∀ node, others (f node) = (children node).map f) :
    descend others depth (nodes.map f) = (descend children depth nodes).map f := by
  induction depth with
  | zero => rfl
  | succ depth ih =>
    rw [descend, ih, descend, List.flatMap_map, List.map_flatMap]
    exact List.flatMap_congr fun node _ => same node

theorem levelOrder_map {β : Type} {f : α → β} {others : β → List β} {root : α} {depth : Nat}
    (same : ∀ node, others (f node) = (children node).map f) :
    levelOrder others (f root) depth = (levelOrder children root depth).map f := by
  rw [levelOrder, levelOrder, List.map_flatMap]
  apply List.flatMap_congr
  intro level _
  exact (descend_map same : descend others level ([root].map f) = _)

variable {root : α} {order : List α} (whole : order = root :: order.flatMap children)
include whole

private theorem levelOrder_append (depth : Nat) :
    order = levelOrder children root depth ++ descend children depth order := by
  induction depth with
  | zero => rfl
  | succ depth ih =>
    have next : descend children depth order = descend children depth [root] ++ descend children (depth + 1) order := by
      rw [descend_succ, ← descend_append, List.singleton_append, ← whole]
    rw [levelOrder, List.range_succ, List.flatMap_append, List.flatMap_singleton, List.append_assoc, ← next]
    exact ih

omit whole in
private theorem le_idxOf_of_mem_descend [DecidableEq α] {depth : Nat} {id : α}
    (ahead : ∀ parent ∈ order, ∀ child ∈ children parent, child ∈ order ∧ order.idxOf parent < order.idxOf child)
    (member : id ∈ descend children depth order) : id ∈ order ∧ depth ≤ order.idxOf id := by
  induction depth generalizing id with
  | zero => exact ⟨member, Nat.zero_le _⟩
  | succ depth ih =>
    obtain ⟨parent, above, child⟩ := List.mem_flatMap.mp member
    obtain ⟨listed, deep⟩ := ih above
    obtain ⟨inside, later⟩ := ahead parent listed id child
    exact ⟨inside, Nat.lt_of_le_of_lt deep later⟩

/-- An order that lists a root and then everyone's children, in its own order, goes level by level. -/
theorem eq_levelOrder [DecidableEq α]
    (ahead : ∀ parent ∈ order, ∀ child ∈ children parent, child ∈ order ∧ order.idxOf parent < order.idxOf child) :
    order = levelOrder children root order.length := by
  have bottom : descend children order.length order = [] := by
    rw [List.eq_nil_iff_forall_not_mem]
    intro id member
    obtain ⟨inside, deep⟩ := le_idxOf_of_mem_descend ahead member
    exact Nat.not_lt.mpr deep (List.idxOf_lt_length_of_mem inside)
  have levels := levelOrder_append whole order.length
  rwa [bottom, List.append_nil] at levels

end Levels

/-- Arcs of a tree: no arc enters the root, and every other node is reached from it and entered from one
node only. -/
structure Branching (arcs : List (α × α)) (root : α) : Prop where
  entered : ∀ parent, ¬ Arc arcs parent root
  single : ∀ left right id, Arc arcs left id → Arc arcs right id → left = right
  reached : ∀ id, Touched arcs id → Leads arcs root id

namespace Branching

variable {arcs : List (α × α)} {root : α} (branching : Branching arcs root)
include branching

theorem acyclic : Acyclic arcs := by
  -- The way from the root never comes to a cycle, since a cycle has no way in.
  have off {id : α} (path : Leads arcs root id) : ¬ OnCycle arcs id := by
    induction path with
    | refl =>
      intro cycle
      obtain ⟨last, _, arc⟩ := Relation.TransGen.tail'_iff.mp cycle
      exact branching.entered last arc
    | tail _ arc ih =>
      intro cycle
      obtain ⟨last, path, back⟩ := Relation.TransGen.tail'_iff.mp cycle
      obtain rfl := branching.single _ _ _ arc back
      exact ih (Relation.TransGen.head' arc path)
  exact fun id cycle => off (branching.reached id cycle.touched) cycle

private theorem eq_root {id : α} (isRoot : IsRoot arcs id) : id = root :=
  (isRoot.eq_of_leads (branching.reached id isRoot.touched)).symm

end Branching

namespace Links

variable [DecidableEq α] {links : Links α} {order : QueueOrder} {root : α} {work next : Work α}

private theorem arrange_eq_self {queue : List α}
    (alike : ∀ left ∈ queue, ∀ right ∈ queue, links.parentCount left = links.parentCount right) :
    links.arrange order queue = queue := by
  cases order with
  | insertion => rfl
  | parentCount =>
    rw [arrange_parentCount]
    apply List.mergeSort_of_pairwise
    apply List.pairwise_of_forall_mem_list
    intro left leftMember right rightMember
    exact decide_eq_true (alike left leftMember right rightMember).ge

/-- At every point of a run over a tree, taken and waiting nodes are the root and the children of those taken. -/
structure Level (links : Links α) (root : α) (work : Work α) : Prop where
  sound : links.Sound work
  listed : work.reached ++ work.queue = root :: work.reached.flatMap links.children

namespace Level

variable (branching : Branching links.arcs root) (level : links.Level root work)
include level

private theorem once : (work.reached ++ work.queue).Nodup := List.nodup_append_comm.mp level.sound.once

include branching

private theorem ready {id : α} (waits : id ∈ work.queue) : links.isReady work.reached id = true := by
  rw [isReady_iff]
  intro parent arc
  rcases level.sound.waiting id waits with isRoot | ⟨other, reached, entered⟩
  · exact False.elim (isRoot.entered parent arc)
  · exact branching.single other parent id entered arc ▸ reached

/-- Either the root waits alone, or everything that waits has one parent. -/
theorem alike : ∀ left ∈ work.queue, ∀ right ∈ work.queue, links.parentCount left = links.parentCount right := by
  have listed := level.listed
  cases first : work.reached with
  | nil =>
    rw [first] at listed
    intro left leftWaits right rightWaits
    rw [show work.queue = [root] from listed, List.mem_singleton] at leftWaits rightWaits
    rw [leftWaits, rightWaits]
  | cons other rest =>
    rw [first] at listed
    obtain rfl : other = root := (List.cons.inj listed).1
    have one {id : α} (waits : id ∈ work.queue) : links.parentCount id = 1 := by
      rcases level.sound.waiting id waits with isRoot | ⟨parent, _, arc⟩
      · rw [branching.eq_root isRoot] at waits
        exact False.elim (List.disjoint_of_nodup_append level.once (first ▸ List.mem_cons_self) waits)
      · have only (other : α) : other ∈ links.parents id ↔ other ∈ [parent] := by
          rw [mem_parents, List.mem_singleton]
          exact ⟨fun entered => branching.single other parent id entered arc, fun same => same ▸ arc⟩
        have same : (links.parents id).Perm [parent] :=
          (List.perm_ext_iff_of_nodup (nodup_eraseDups _) (List.nodup_singleton parent)).mpr only
        rw [parentCount, same.length_eq, List.length_singleton]
    intro left leftWaits right rightWaits
    rw [one leftWaits, one rightWaits]

private theorem children_fresh {id child : α} (waits : id ∈ work.queue) (arc : Arc links.arcs id child) :
    child ∉ work.reached ++ work.queue := by
  rw [level.listed, List.mem_cons, List.mem_flatMap]
  rintro (rfl | ⟨parent, reached, entered⟩)
  · exact branching.entered id arc
  · obtain rfl := branching.single parent id child (links.mem_children.mp entered) arc
    exact List.disjoint_of_nodup_append level.once reached waits

/-- A step takes the node that waits longest, and its children wait behind all others. -/
theorem step_eq {id : α} {rest : List α} (queue : work.queue = id :: rest) :
    links.step order work = some ⟨rest ++ links.children id, work.reached ++ [id]⟩ := by
  have waits : id ∈ work.queue := queue ▸ List.mem_cons_self
  have fresh : (links.children id).filter (· ∉ rest ++ (work.reached ++ [id])) = links.children id := by
    apply List.filter_eq_self.mpr
    intro child member
    have new := level.children_fresh branching waits (links.mem_children.mp member)
    rw [queue] at new
    simp only [List.mem_append, List.mem_cons] at new
    simp only [List.mem_append, List.mem_singleton, decide_eq_true_iff]
    tauto
  have arranged : links.arrange order work.queue = id :: rest := (arrange_eq_self (level.alike branching)).trans queue
  have found : (id :: rest).find? (links.isReady work.reached) = some id :=
    List.find?_cons_of_pos (level.ready branching waits)
  simp only [Links.step, arranged, found, List.erase_cons_head, fresh]

private theorem step (advanced : links.step order work = some next) : links.Level root next := by
  obtain ⟨taken, takes⟩ := takes_of_step advanced
  refine ⟨level.sound.step takes, ?_⟩
  cases queue : work.queue with
  | nil =>
    have waited := takes.waited
    rw [queue] at waited
    cases waited
  | cons id rest =>
    rw [level.step_eq branching queue, Option.some.injEq] at advanced
    have listed := level.listed
    rw [queue] at listed
    rw [← advanced]
    simp only [List.flatMap_append, List.flatMap_singleton]
    rw [← List.cons_append, ← listed]
    simp

end Level

theorem roots_eq (unique : links.ids.Nodup) (branching : Branching links.arcs root)
    (touched : Touched links.arcs root) : links.roots = [root] := by
  have only (id : α) : id ∈ links.roots ↔ id ∈ [root] := by
    rw [mem_roots, List.mem_singleton]
    exact ⟨branching.eq_root, fun same => same ▸ ⟨touched, branching.entered⟩⟩
  exact List.perm_singleton.mp
    ((List.perm_ext_iff_of_nodup (unique.filter _) (List.nodup_singleton root)).mpr only)

/-- The order of a tree is breadth-first from its root, whichever waiting node is looked at first. -/
theorem order_linearize_eq (unique : links.ids.Nodup) (branching : Branching links.arcs root)
    (touched : Touched links.arcs root) (order : QueueOrder) :
    (links.linearize order).order =
      levelOrder links.children root (links.linearize order).order.length := by
  have roots := roots_eq unique branching touched
  have exact := links.exact_linearize unique order
  have settled : links.Settled order (links.run order ⟨links.roots, []⟩) := run_settled unique _
  have start : links.Level root ⟨links.roots, []⟩ := ⟨sound_start unique, roots⟩
  have level : links.Level root (links.run order ⟨links.roots, []⟩) :=
    run_keeps_of_step (fun _ _ level => level.step branching) start
  have done := level.sound.queue_eq_nil settled fun _ id _ _ => branching.acyclic id
  have reached : (links.linearize order).order = (links.run order ⟨links.roots, []⟩).reached := by
    rw [linearize_eq, if_neg]
    simp [roots]
  have listed := level.listed
  rw [done, List.append_nil, ← reached] at listed
  apply eq_levelOrder listed
  intro parent taken child member
  have arc := links.mem_children.mp member
  have inside : child ∈ (links.linearize order).order :=
    (exact.members child).mpr ⟨arc.touched_target, branching.acyclic.grounded child⟩
  exact ⟨inside, exact.parentsFirst.idxOf_lt inside arc⟩

end Links
end BoxTree
