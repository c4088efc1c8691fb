import BoxTree.Proofs.TreePaths
import Mathlib

/-! Child slots of linear trees. A well-formed tree has every position but the root in a slot. All slots with one
position are slots of one node, and that node is the one right before the position on the way from the root, wherever
it stands in the tree. -/

namespace BoxTree

variable {β : Type}

namespace LinearTree

/-- What the child slots of a tree hold, node after node. -/
def childSlots (tree : LinearTree β) : List Int := tree.nodes.flatMap (·.children)

/-- All slots with a position are slots of one other node, and every way from the root to the position comes through
that node last. -/
structure Hangs (tree : LinearTree β) (parent child : Int) : Prop where
  isChild : tree.IsChild parent child
  other : parent ≠ child
  only : ∀ node, tree.IsChild node child → node = parent
  slots : tree.childSlots.count child = (tree.childrenAt parent).count child
  last : ∀ path, IsPath tree.links 0 child path → ∃ way, IsPath tree.links 0 parent way ∧ path = way ++ [child]

variable {tree : LinearTree β}

private theorem childSlots_eq (tree : LinearTree β) : tree.childSlots = tree.links.map (·.2) := by
  have own (entry : TreeNode β × Nat) :
      (entry.1.children.map fun child => ((entry.2 : Int), child)).map (·.2) = entry.1.children := by
    rw [List.map_map]
    exact List.map_id _
  rw [links, List.map_flatten, List.map_map]
  simp only [Function.comp_def, own]
  rw [childSlots, List.flatMap_def, ← List.zipIdx_map_fst 0 tree.nodes, List.map_map]
  simp only [List.zipIdx_map_fst, Function.comp_def]

private theorem mem_childSlots {child : Int} : child ∈ tree.childSlots ↔ ∃ parent, tree.IsChild parent child := by
  rw [childSlots_eq, ← arc_links]
  simp [Arc]

private theorem listsOnce_of_nodup (once : tree.childSlots.Nodup) : tree.ListsOnce :=
  fun node member => (List.nodup_flatMap.mp once).1 node member

section WellFormed

variable (wellFormed : tree.WellFormed)
include wellFormed

private theorem WellFormed.mem_childSlots_iff {child : Int} :
    child ∈ tree.childSlots ↔ child ∈ tree.positions ∧ child ≠ 0 := by
  rw [mem_childSlots, ← arc_links]
  constructor
  · rintro ⟨parent, arc⟩
    exact ⟨wellFormed.target_mem arc, (wellFormed.inside _ arc).notRoot⟩
  · rintro ⟨member, inner⟩
    rcases Relation.ReflTransGen.cases_tail (wellFormed.leads_of_mem member) with root | ⟨parent, _, arc⟩
    · exact False.elim (inner root)
    · exact ⟨parent, arc⟩

/-- Up to repeats the slots hold every position but the root. -/
theorem WellFormed.perm_slots : (tree.links.eraseDups.map (·.2)).Perm (tree.positions.erase 0) := by
  have apart : ∀ left ∈ tree.links.eraseDups, ∀ right ∈ tree.links.eraseDups, left.2 = right.2 → left = right := by
    intro left leftMember right rightMember same
    exact Prod.ext (wellFormed.single _ (List.mem_eraseDups.mp leftMember) _ (List.mem_eraseDups.mp rightMember) same) same
  apply (List.perm_ext_iff_of_nodup ((nodup_eraseDups _).map_on apart) ((nodup_positions tree).erase 0)).mpr
  intro child
  rw [(nodup_positions tree).mem_erase_iff, and_comm, ← wellFormed.mem_childSlots_iff, childSlots_eq]
  simp only [List.mem_map, List.mem_eraseDups]

private theorem WellFormed.length_distinct_links (filled : 0 < tree.length) :
    tree.links.eraseDups.length + 1 = tree.length := by
  have size : tree.positions.length = tree.length := by simp [positions]
  have root : (0 : Int) ∈ tree.positions := mem_positions.mpr ⟨Int.le_refl 0, Int.ofNat_lt.mpr filled⟩
  have slots := wellFormed.perm_slots.length_eq
  rw [List.length_map, List.length_erase_of_mem root, size] at slots
  omega

private theorem WellFormed.perm_childSlots (once : tree.ListsOnce) : tree.childSlots.Perm (tree.positions.erase 0) := by
  rw [childSlots_eq, ← eraseDups_eq_self once.nodup_links]
  exact wellFormed.perm_slots

private theorem WellFormed.listsOnce_iff :
    tree.ListsOnce ↔
      ∀ position : Nat, 0 < position → position < tree.length → tree.childSlots.count (position : Int) = 1 := by
  constructor
  · intro once position inner below
    rw [(wellFormed.perm_childSlots once).count_eq]
    apply List.count_eq_one_of_mem ((nodup_positions tree).erase 0)
    rw [(nodup_positions tree).mem_erase_iff, mem_positions]
    omega
  · intro single
    apply listsOnce_of_nodup
    apply List.nodup_iff_count_le_one.mpr
    intro child
    by_cases member : child ∈ tree.childSlots
    · obtain ⟨inside, inner⟩ := wellFormed.mem_childSlots_iff.mp member
      obtain ⟨lower, upper⟩ := mem_positions.mp inside
      obtain ⟨position, rfl⟩ := Int.eq_ofNat_of_zero_le lower
      exact (single position (by omega) (by omega)).le
    · rw [List.count_eq_zero_of_not_mem member]
      exact Nat.zero_le 1

private theorem WellFormed.hangs {parent child : Int} (isChild : tree.IsChild parent child) :
    tree.Hangs parent child where
  isChild := isChild
  other := by
    rw [← arc_links] at isChild
    exact (wellFormed.inside _ isChild).other.symm
  only node also := by
    rw [← arc_links] at isChild also
    exact wellFormed.single _ also _ isChild rfl
  slots := by
    rw [← arc_links] at isChild
    rw [childSlots_eq, ← targets_links, targets, List.count_eq_countP, List.count_eq_countP, List.countP_map,
      List.countP_map, List.countP_filter]
    apply List.countP_congr
    intro link member
    simp only [Function.comp_apply, beq_iff_eq, Bool.and_eq_true, decide_eq_true_iff, iff_self_and]
    exact fun same => wellFormed.single _ member _ isChild same
  last path isPath := by
    rw [← arc_links] at isChild
    rcases List.eq_nil_or_concat path with rfl | ⟨way, last, rfl⟩
    · cases isPath.first
    rw [List.concat_eq_append] at isPath ⊢
    obtain ⟨rfl, ⟨_, root⟩ | ⟨middle, isWay, arc⟩⟩ := isPath_concat_iff.mp isPath
    · exact False.elim ((wellFormed.inside _ isChild).notRoot root)
    · obtain rfl := wellFormed.single _ arc _ isChild rfl
      exact ⟨way, isWay, rfl⟩

end WellFormed

private theorem ListsOnce.gate_ne (once : tree.ListsOnce) {node : TreeNode β} (member : node ∈ tree.nodes)
    {left right : Int}
    (gate : node.children = [left, right]) : left ≠ right := by
  have children := once node member
  rw [gate] at children
  simpa using children

/-- In an accepted tree the slots hold the positions other than the root, and each of these hangs below one node. There
is one pair of a node and a child for each of them. They fill one slot each exactly if no node lists a child twice; then
there is one slot less than there are positions, and two slots of a gate hold different children. -/
theorem childSlots_of_isValid (tree : LinearTree β) (valid : tree.isValid = true) :
    (∀ child, child ∈ tree.childSlots ↔ child ∈ tree.positions ∧ child ≠ 0) ∧
      (∀ child ∈ tree.childSlots, ∃ parent, tree.Hangs parent child) ∧
      (0 < tree.length → tree.links.eraseDups.length + 1 = tree.length) ∧
      (tree.ListsOnce ↔
        ∀ position : Nat, 0 < position → position < tree.length → tree.childSlots.count (position : Int) = 1) ∧
      (tree.ListsOnce → (0 < tree.length → tree.childSlots.length + 1 = tree.length) ∧
        ∀ node ∈ tree.nodes, ∀ left right, node.children = [left, right] → left ≠ right) := by
  have wellFormed := (isValid_iff_wellFormed tree).mp valid
  refine ⟨fun _ => wellFormed.mem_childSlots_iff, ?_, wellFormed.length_distinct_links, wellFormed.listsOnce_iff, ?_⟩
  · intro child member
    obtain ⟨parent, isChild⟩ := mem_childSlots.mp member
    exact ⟨parent, wellFormed.hangs isChild⟩
  · intro once
    refine ⟨?_, fun node member left right => once.gate_ne member⟩
    intro filled
    have size := wellFormed.length_distinct_links filled
    rwa [eraseDups_eq_self once.nodup_links, ← List.length_map (·.2), ← childSlots_eq] at size

/-- A gate that stands behind both of its children. -/
def lateParent : LinearTree Unit := ⟨[.box () [3], .box () [], .box () [], .and 1 2], []⟩

theorem childSlots_of_isValid_lateParent :
    lateParent.isValid = true ∧ lateParent.Hangs 3 1 ∧ lateParent.childSlots.length + 1 = lateParent.length := by
  have valid : lateParent.isValid = true := by cbv
  obtain ⟨_, hang, _, _, once⟩ := childSlots_of_isValid lateParent valid
  obtain ⟨parent, hangs⟩ := hang 1 (by decide)
  have isChild : lateParent.IsChild 3 1 := ⟨3, .and 1 2, rfl, rfl, by decide⟩
  obtain rfl := hangs.only 3 isChild
  exact ⟨valid, hangs, (once (by decide)).1 (by decide)⟩

/-- A gate with one child in both of its slots. -/
def doubledSlot : LinearTree Unit := ⟨[.and 1 1, .box () []], []⟩

/-- A box that hangs below a later one. -/
def laterSlot : LinearTree Unit := ⟨[.box () [2], .box () [], .box () [1]], []⟩

/-- The check accepts a tree of two positions with two slots, and a tree in which a parent has the later position. -/
theorem earlierSlot_not_enforced :
    (doubledSlot.isValid = true ∧ doubledSlot.childSlots = [1, 1]) ∧
      laterSlot.isValid = true ∧ laterSlot.IsChild 2 1 := by
  refine ⟨⟨by cbv, rfl⟩, by cbv, ?_⟩
  exact ⟨2, .box () [1], rfl, rfl, by decide⟩

end LinearTree
end BoxTree
