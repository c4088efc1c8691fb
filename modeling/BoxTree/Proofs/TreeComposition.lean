import BoxTree.Proofs.EdgeNames
import BoxTree.Proofs.TreeValidity
import BoxTree.Tree.Compose
import Mathlib

/-! Trees put together under a gate. Both share one range of positions, each in a block of its own, so
neither can reach into the other, and no name of one fits an edge of the other. -/

namespace BoxTree

@[simp] theorem TreeNode.children_shift {β : Type} (offset : Int) (node : TreeNode β) :
    (node.shift offset).children = node.children.map (· + offset) := by
  cases node <;> rfl

namespace LinearTree

variable {β : Type}

def moved (offset : Int) (edge : Int × Int) : Int × Int := (edge.1 + offset, edge.2 + offset)

theorem moved_injective (offset : Int) : Function.Injective (moved offset) := by
  intro left right same
  simp only [moved, Prod.mk.injEq] at same
  exact Prod.ext (by omega) (by omega)

@[simp] theorem lookup_shiftNames (offset : Int) (names : List (EdgeKey × Wording)) (edge : Int × Int) :
    (shiftNames offset names).lookup (moved offset edge) = names.lookup edge := by
  induction names with
  | nil => rfl
  | cons entry rest ih =>
    obtain ⟨key, name⟩ := entry
    have same : (moved offset edge == moved offset key) = (edge == key) := by
      simp only [beq_eq_decide, (moved_injective offset).eq_iff]
    change List.lookup (moved offset edge) ((moved offset key, name) :: shiftNames offset rest) = _
    rw [List.lookup_cons, List.lookup_cons, same, ih]

private theorem mem_shiftNames {offset : Int} {names : List (EdgeKey × Wording)} {entry : EdgeKey × Wording}
    (member : entry ∈ shiftNames offset names) : ∃ original ∈ names, entry.1 = moved offset original.1 := by
  obtain ⟨original, listed, rfl⟩ := List.mem_map.mp member
  exact ⟨original, listed, rfl⟩

private theorem WellFormed.mem_links_of_lookup {tree : LinearTree β} (wellFormed : tree.WellFormed) {edge : EdgeKey}
    {name : Wording} (found : tree.edgeNames.lookup edge = some name) : edge ∈ tree.links :=
  wellFormed.named (edge, name) (mem_of_lookup found)

/-- Names that were moved along stand in the block of the tree they come from. -/
theorem WellFormed.inside_of_mem_shiftNames {tree : LinearTree β} (wellFormed : tree.WellFormed) {offset : Int}
    {key : EdgeKey} (member : key ∈ (shiftNames offset tree.edgeNames).map (·.1)) :
    offset ≤ key.1 ∧ key.1 < offset + tree.length := by
  obtain ⟨entry, listed, rfl⟩ := List.mem_map.mp member
  obtain ⟨original, named, same⟩ := mem_shiftNames listed
  obtain ⟨lower, upper⟩ := parent_inside (wellFormed.named original named)
  rw [same, moved]
  omega

private theorem lookup_shiftNames_outside {tree : LinearTree β} (wellFormed : tree.WellFormed) {offset : Int}
    {edge : Int × Int} (outside : edge.1 < offset ∨ offset + tree.length ≤ edge.1) :
    (shiftNames offset tree.edgeNames).lookup edge = none := by
  rw [List.lookup_eq_none_iff]
  intro entry member
  have inside := wellFormed.inside_of_mem_shiftNames (List.mem_map_of_mem member)
  rw [bne_iff_ne]
  rintro rfl
  omega

/-- A tree stands inside another one from some position on: the positions of its block are those that the
first of them leads to, its nodes are there with their children moved along, its named edges keep their
names, and its other edges still have none. -/
structure StandsIn (part whole : LinearTree β) (start : Nat) : Prop where
  positions : ∀ position, Leads whole.links start position ↔ (start : Int) ≤ position ∧ position < start + part.length
  nodes : ∀ index < part.length, whole.nodes[start + index]? = part.nodes[index]?.map (·.shift start)
  named : ∀ unnamed parent child name, part.edgeNames.lookup (parent, child) = some name →
    whole.edgeName unnamed (parent + start) (child + start) = part.edgeName unnamed parent child
  nameless : ∀ parent child, (parent, child) ∈ part.links → part.edgeNames.lookup (parent, child) = none →
    whole.edgeNames.lookup (parent + start, child + start) = none

section Block

variable {part whole : LinearTree β} {start : Nat}
  (block : ∀ index < part.length, whole.nodes[start + index]? = part.nodes[index]?.map (·.shift start))
include block

private theorem moved_mem_links_iff {edge : Int × Int} (lower : 0 ≤ edge.1) (upper : edge.1 < part.length) :
    moved start edge ∈ whole.links ↔ edge ∈ part.links := by
  obtain ⟨parent, child⟩ := edge
  obtain ⟨index, rfl⟩ := Int.eq_ofNat_of_zero_le lower
  have below : index < part.length := Int.ofNat_lt.mp upper
  rw [moved, mem_links, mem_links]
  constructor
  · intro given
    obtain ⟨place, node, found, same, inside⟩ := given
    obtain rfl : place = start + index := by omega
    rw [block index below, Option.map_eq_some_iff] at found
    obtain ⟨original, listed, rfl⟩ := found
    rw [TreeNode.children_shift, List.mem_map] at inside
    obtain ⟨other, member, equal⟩ := inside
    obtain rfl : other = child := by omega
    exact ⟨index, original, listed, rfl, member⟩
  · intro given
    obtain ⟨place, node, found, same, inside⟩ := given
    obtain rfl : index = place := by omega
    refine ⟨start + index, node.shift start, by rw [block index below, found]; rfl, by omega, ?_⟩
    rw [TreeNode.children_shift]
    exact List.mem_map_of_mem inside

private theorem leads_moved {source target : Int} (path : Leads part.links source target) :
    Leads whole.links (source + start) (target + start) := by
  refine Relation.ReflTransGen.lift (· + (start : Int)) ?_ _ _ path
  intro parent child arc
  obtain ⟨lower, upper⟩ := parent_inside arc
  exact (moved_mem_links_iff block lower upper).mpr arc

private theorem leads_start_iff (wellFormed : part.WellFormed) (nonempty : 0 < part.length) (position : Int) :
    Leads whole.links start position ↔ (start : Int) ≤ position ∧ position < start + part.length := by
  constructor
  · intro path
    induction path with
    | refl => omega
    | @tail parent child _ arc ih =>
      have link : (parent - start, child - start) ∈ part.links := by
        rw [← moved_mem_links_iff block (by omega) (by omega), moved, Int.sub_add_cancel, Int.sub_add_cancel]
        exact arc
      have inside := wellFormed.inside _ link
      have lower := inside.lower
      have upper := inside.upper
      omega
  · intro given
    obtain ⟨index, rfl⟩ : ∃ index : Nat, position = index + start := ⟨(position - start).toNat, by omega⟩
    simpa using leads_moved block (wellFormed.reached index (by omega))

private theorem standsIn_of_block (wellFormed : part.WellFormed) (nonempty : 0 < part.length)
    (names : ∀ edge ∈ part.links, whole.edgeNames.lookup (moved start edge) = part.edgeNames.lookup edge) :
    part.StandsIn whole start where
  positions := leads_start_iff block wellFormed nonempty
  nodes := block
  named unnamed parent child name found := by
    have same : whole.edgeNames.lookup (parent + start, child + start) = some name :=
      (names _ (wellFormed.mem_links_of_lookup found)).trans found
    simp only [edgeName, found, same]
  nameless parent child link none := (names _ link).trans none

end Block

structure Combines (leftName : Wording) (left : LinearTree β) (rightName : Wording) (right tree : LinearTree β) :
    Prop where
  nodes : tree.nodes =
    .or 1 (1 + left.length : Nat) ::
      (left.nodes.map (·.shift (1 : Nat)) ++ right.nodes.map (·.shift (1 + left.length : Nat)))
  names : tree.edgeNames =
    ((0, 1), leftName) :: ((0, ((1 + left.length : Nat) : Int)), rightName) ::
      (shiftNames (1 : Nat) left.edgeNames ++ shiftNames (1 + left.length : Nat) right.edgeNames)

theorem combines_combineOr (leftName : Wording) {left : LinearTree β} (rightName : Wording) {right : LinearTree β}
    (leftFull : left.isEmpty = false) (rightFull : right.isEmpty = false) :
    ∃ tree, combineOr leftName left rightName right = some tree ∧ Combines leftName left rightName right tree := by
  refine ⟨_, if_neg (by simp only [leftFull, rightFull, Bool.or_false, Bool.false_eq_true, not_false_iff]), ?_, ?_⟩
  · simp only [Int.natCast_add, Int.natCast_one, List.cons_append]
  · simp only [Int.natCast_add, Int.natCast_one, List.cons_append, List.nil_append]

namespace Combines

variable {leftName rightName : Wording} {left right tree : LinearTree β}
  (combines : Combines leftName left rightName right tree)
include combines

private theorem length_eq : tree.length = 1 + left.length + right.length := by
  simp only [length, combines.nodes, List.length_cons, List.length_append, List.length_map]
  omega

private theorem leftBlock :
    ∀ index < left.length, tree.nodes[1 + index]? = left.nodes[index]?.map (·.shift (1 : Nat)) := by
  intro index below
  rw [combines.nodes, Nat.add_comm 1 index, List.getElem?_cons_succ,
    List.getElem?_append_left (by rw [List.length_map]; exact below), List.getElem?_map]

private theorem rightBlock : ∀ index < right.length,
    tree.nodes[1 + left.length + index]? = right.nodes[index]?.map (·.shift (1 + left.length : Nat)) := by
  intro index below
  rw [combines.nodes, Nat.add_assoc, Nat.add_comm 1 (left.length + index), List.getElem?_cons_succ,
    List.getElem?_append_right (by simp [length]), List.getElem?_map, List.length_map]
  congr 2
  exact Nat.add_sub_cancel_left left.length index

private theorem mem_links {edge : Int × Int} :
    edge ∈ tree.links ↔
      edge = (0, 1) ∨ edge = (0, ((1 + left.length : Nat) : Int)) ∨
        (∃ original ∈ left.links, edge = moved (1 : Nat) original) ∨
        ∃ original ∈ right.links, edge = moved (1 + left.length : Nat) original := by
  have root : tree.nodes[0]? = some (.or 1 (1 + left.length : Nat)) := by rw [combines.nodes, List.getElem?_cons_zero]
  have within (start : Nat) : moved start (edge.1 - start, edge.2 - start) = edge := by
    simp only [moved, Int.sub_add_cancel]
  constructor
  · intro link
    obtain ⟨lower, upper⟩ := parent_inside link
    rw [combines.length_eq] at upper
    rcases Int.lt_or_le 0 edge.1 with inner | first
    · right; right
      rcases Int.lt_or_le edge.1 (1 + left.length : Nat) with before | behind
      · left
        rw [← within 1, moved_mem_links_iff combines.leftBlock (by dsimp only; omega) (by dsimp only; omega)] at link
        exact ⟨_, link, (within 1).symm⟩
      · right
        rw [← within (1 + left.length), moved_mem_links_iff combines.rightBlock (by dsimp only; omega)
          (by dsimp only; omega)] at link
        exact ⟨_, link, (within _).symm⟩
    · obtain ⟨parent, child⟩ := edge
      obtain ⟨index, node, found, rfl, inside⟩ := LinearTree.mem_links.mp link
      obtain rfl : index = 0 := by dsimp only at first; omega
      rw [root] at found
      cases found
      rcases List.mem_pair.mp inside with rfl | rfl
      · exact .inl rfl
      · exact .inr (.inl rfl)
  · intro given
    rcases given with rfl | rfl | ⟨original, member, rfl⟩ | ⟨original, member, rfl⟩
    · exact LinearTree.mem_links.mpr ⟨0, _, root, rfl, List.mem_cons_self⟩
    · exact LinearTree.mem_links.mpr ⟨0, _, root, rfl, List.mem_cons_of_mem _ List.mem_cons_self⟩
    · obtain ⟨lower, upper⟩ := parent_inside member
      exact (moved_mem_links_iff combines.leftBlock lower upper).mpr member
    · obtain ⟨lower, upper⟩ := parent_inside member
      exact (moved_mem_links_iff combines.rightBlock lower upper).mpr member

section WellFormed

variable (leftFormed : left.WellFormed) (rightFormed : right.WellFormed)
include leftFormed rightFormed

/-- Where an edge comes from shows in its child: the gate's children are the first positions of the blocks,
and no other edge leads there. -/
theorem origin {edge : Int × Int} (link : edge ∈ tree.links) :
    (edge.1 = 0 ∧ (edge.2 = 1 ∨ edge.2 = (1 + left.length : Nat))) ∨
      (1 < edge.2 ∧ edge.2 < (1 + left.length : Nat) ∧ ∃ original ∈ left.links, edge = moved (1 : Nat) original) ∨
      ((1 + left.length : Nat) < edge.2 ∧ edge.2 < tree.length ∧
        ∃ original ∈ right.links, edge = moved (1 + left.length : Nat) original) := by
  have size := combines.length_eq
  rcases combines.mem_links.mp link with rfl | rfl | ⟨original, member, rfl⟩ | ⟨original, member, rfl⟩
  · exact .inl ⟨rfl, .inl rfl⟩
  · exact .inl ⟨rfl, .inr rfl⟩
  · obtain ⟨lower, upper, _, notRoot⟩ := leftFormed.inside original member
    exact .inr (.inl ⟨by dsimp only [moved]; omega, by dsimp only [moved]; omega, original, member, rfl⟩)
  · obtain ⟨lower, upper, _, notRoot⟩ := rightFormed.inside original member
    exact .inr (.inr ⟨by dsimp only [moved]; omega, by dsimp only [moved]; omega, original, member, rfl⟩)

private theorem single : SingleParents tree.links := by
  intro first firstLink second secondLink same
  rcases combines.origin leftFormed rightFormed firstLink with
    ⟨fromRoot, child⟩ | ⟨lower, upper, original, member, rfl⟩ | ⟨lower, upper, original, member, rfl⟩ <;>
  rcases combines.origin leftFormed rightFormed secondLink with
    ⟨fromRoot', child'⟩ | ⟨lower', upper', other, listed, rfl⟩ | ⟨lower', upper', other, listed, rfl⟩
  case inr.inl.inr.inl =>
    have parents := leftFormed.single original member other listed (by dsimp only [moved] at same; omega)
    exact congrArg (· + ((1 : Nat) : Int)) parents
  case inr.inr.inr.inr =>
    have parents := rightFormed.single original member other listed (by dsimp only [moved] at same; omega)
    exact congrArg (· + ((1 + left.length : Nat) : Int)) parents
  all_goals omega

variable (leftFull : 0 < left.length) (rightFull : 0 < right.length)
include leftFull rightFull

private theorem reached {position : Nat} (below : position < tree.length) : Leads tree.links 0 position := by
  rw [combines.length_eq] at below
  rcases Nat.eq_zero_or_pos position with rfl | inner
  · exact .refl
  rcases Nat.lt_or_ge position (1 + left.length) with before | behind
  · refine .head (combines.mem_links.mpr (.inl rfl)) ?_
    exact (leads_start_iff combines.leftBlock leftFormed leftFull position).mpr (by omega)
  · refine .head (combines.mem_links.mpr (.inr (.inl rfl))) ?_
    exact (leads_start_iff combines.rightBlock rightFormed rightFull position).mpr (by omega)

private theorem wellFormed : tree.WellFormed where
  inside edge link := by
    have size := combines.length_eq
    have positive := (parent_inside link).1
    rcases combines.origin leftFormed rightFormed link with
      ⟨fromRoot, child⟩ | ⟨lower, upper, original, member, rfl⟩ | ⟨lower, upper, original, member, rfl⟩
    · exact ⟨by omega, by omega, by omega, by omega⟩
    · have other := (leftFormed.inside original member).other
      exact ⟨by omega, by omega, by dsimp only [moved]; omega, by omega⟩
    · have other := (rightFormed.inside original member).other
      exact ⟨by omega, by omega, by dsimp only [moved]; omega, by omega⟩
  single := combines.single leftFormed rightFormed
  reached _ below := combines.reached leftFormed rightFormed leftFull rightFull below
  named entry member := by
    rw [combines.names, List.mem_cons, List.mem_cons, List.mem_append] at member
    rw [combines.mem_links]
    rcases member with rfl | rfl | member | member
    · exact .inl rfl
    · exact .inr (.inl rfl)
    · obtain ⟨original, listed, same⟩ := mem_shiftNames member
      exact .inr (.inr (.inl ⟨_, leftFormed.named original listed, same⟩))
    · obtain ⟨original, listed, same⟩ := mem_shiftNames member
      exact .inr (.inr (.inr ⟨_, rightFormed.named original listed, same⟩))

omit leftFormed rightFormed leftFull rightFull in
private theorem lookup_of_pos {edge : Int × Int} (inner : 0 < edge.1) :
    tree.edgeNames.lookup edge = ((shiftNames (1 : Nat) left.edgeNames).lookup edge).or
      ((shiftNames (1 + left.length : Nat) right.edgeNames).lookup edge) := by
  have below (child : Int) : (edge == (0, child)) = false := by
    rw [beq_eq_false_iff_ne]
    rintro rfl
    exact Int.lt_irrefl 0 inner
  rw [combines.names, List.lookup_cons, below, List.lookup_cons, below, List.lookup_append]

omit rightFull in
private theorem left_standsIn : left.StandsIn tree 1 := by
  apply standsIn_of_block combines.leftBlock leftFormed leftFull
  intro edge link
  obtain ⟨lower, upper⟩ := parent_inside link
  have behind : (shiftNames (1 + left.length : Nat) right.edgeNames).lookup (moved (1 : Nat) edge) = none :=
    lookup_shiftNames_outside rightFormed (by dsimp only [moved]; omega)
  rw [combines.lookup_of_pos (by dsimp only [moved]; omega), lookup_shiftNames, behind, Option.or_none]

omit leftFull in
private theorem right_standsIn : right.StandsIn tree (1 + left.length) := by
  apply standsIn_of_block combines.rightBlock rightFormed rightFull
  intro edge link
  obtain ⟨lower, upper⟩ := parent_inside link
  have before : (shiftNames (1 : Nat) left.edgeNames).lookup (moved (1 + left.length : Nat) edge) = none :=
    lookup_shiftNames_outside leftFormed (by dsimp only [moved]; omega)
  rw [combines.lookup_of_pos (by dsimp only [moved]; omega), before, lookup_shiftNames, Option.none_or]

end WellFormed

end Combines

/-- A tree that can stand under a gate. -/
structure Rooted (tree : LinearTree β) : Prop where
  valid : tree.isValid = true
  nonempty : tree.isEmpty = false

theorem Rooted.wellFormed {tree : LinearTree β} (rooted : tree.Rooted) : tree.WellFormed :=
  (isValid_iff_wellFormed tree).mp rooted.valid

theorem Rooted.length_pos {tree : LinearTree β} (rooted : tree.Rooted) : 0 < tree.length :=
  List.length_pos_iff.mpr (List.isEmpty_eq_false_iff.mp rooted.nonempty)

/-- A valid tree in which two others stand whole, each below an edge from the root with the name given to it. -/
structure Unites (leftName : Wording) (left : LinearTree β) (rightName : Wording) (right tree : LinearTree β) :
    Prop where
  rooted : tree.Rooted
  size : tree.length = 1 + left.length + right.length
  root : tree.nodes[0]? = some (.or 1 (1 + left.length : Nat))
  leftStands : left.StandsIn tree 1
  rightStands : right.StandsIn tree (1 + left.length)
  leftNamed : ∀ unnamed, tree.edgeName unnamed 0 1 = leftName
  rightNamed : ∀ unnamed, tree.edgeName unnamed 0 (1 + left.length : Nat) = rightName

private theorem Combines.unites {leftName rightName : Wording} {left right tree : LinearTree β}
    (combines : Combines leftName left rightName right tree) (leftRooted : left.Rooted) (rightRooted : right.Rooted) :
    Unites leftName left rightName right tree where
  rooted := by
    refine ⟨(isValid_iff_wellFormed tree).mpr ?_, ?_⟩
    · exact combines.wellFormed leftRooted.wellFormed rightRooted.wellFormed leftRooted.length_pos
        rightRooted.length_pos
    · rw [isEmpty, combines.nodes, List.isEmpty_cons]
  size := combines.length_eq
  root := by rw [combines.nodes, List.getElem?_cons_zero]
  leftStands := combines.left_standsIn leftRooted.wellFormed rightRooted.wellFormed leftRooted.length_pos
  rightStands := combines.right_standsIn leftRooted.wellFormed rightRooted.wellFormed rightRooted.length_pos
  leftNamed unnamed := by rw [edgeName, combines.names, List.lookup_cons_self]
  rightNamed unnamed := by
    have full := leftRooted.length_pos
    have other : ((0, ((1 + left.length : Nat) : Int)) == ((0, 1) : EdgeKey)) = false := by
      rw [beq_eq_false_iff_ne, Ne, Prod.mk.injEq]
      omega
    rw [edgeName, combines.names, List.lookup_cons, other, List.lookup_cons_self]

theorem exists_unites (leftName rightName : Wording) {left right : LinearTree β} (leftRooted : left.Rooted)
    (rightRooted : right.Rooted) :
    ∃ tree, combineOr leftName left rightName right = some tree ∧ Unites leftName left rightName right tree := by
  obtain ⟨tree, found, combines⟩ := combines_combineOr leftName rightName leftRooted.nonempty rightRooted.nonempty
  exact ⟨tree, found, combines.unites leftRooted rightRooted⟩

/-- Trees put together under gates, however deep. -/
inductive Nest (β : Type) where
  | leaf (tree : LinearTree β)
  | or (leftName : Wording) (left : Nest β) (rightName : Wording) (right : Nest β)

namespace Nest

def leaves : Nest β → List (LinearTree β)
  | leaf tree => [tree]
  | or _ left _ right => left.leaves ++ right.leaves

def tree? : Nest β → Option (LinearTree β)
  | leaf tree => some tree
  | or leftName left rightName right => do combineOr leftName (← left.tree?) rightName (← right.tree?)

private theorem exists_tree {nest : Nest β} (rooted : ∀ tree ∈ nest.leaves, tree.Rooted) :
    ∃ tree, nest.tree? = some tree ∧ tree.Rooted := by
  induction nest with
  | leaf tree => exact ⟨tree, rfl, rooted tree List.mem_cons_self⟩
  | or leftName left rightName right leftIh rightIh =>
    obtain ⟨inLeft, inRight⟩ := List.forall_mem_append.mp rooted
    obtain ⟨leftTree, leftFound, leftRooted⟩ := leftIh inLeft
    obtain ⟨rightTree, rightFound, rightRooted⟩ := rightIh inRight
    obtain ⟨tree, found, unites⟩ := exists_unites leftName rightName leftRooted rightRooted
    refine ⟨tree, ?_, unites.rooted⟩
    rw [tree?, leftFound, rightFound]
    exact found

end Nest

/-- Two valid trees that are not empty are put together into a valid tree in which both stand whole, and any
nest of such trees comes to a valid tree. -/
theorem combineOr_unites (leftName rightName : Wording) (left right : LinearTree β) (leftRooted : left.Rooted)
    (rightRooted : right.Rooted) :
    (∃ tree, combineOr leftName left rightName right = some tree ∧ Unites leftName left rightName right tree) ∧
      ∀ nest : Nest β, (∀ tree ∈ nest.leaves, tree.Rooted) → ∃ tree, nest.tree? = some tree ∧ tree.Rooted :=
  ⟨exists_unites leftName rightName leftRooted rightRooted, fun _ rooted => Nest.exists_tree rooted⟩

/-- A box above a named child, and a gate whose children stand in opposite order. -/
def namedChild : LinearTree Nat := ⟨[.box 5 [1], .box 6 []], [((0, 1), "below")]⟩

def crossedGate : LinearTree Nat := ⟨[.and 2 1, .box 7 [], .box 8 []], []⟩

theorem combineOr_unites_crossedGate :
    (∃ tree, combineOr "a" namedChild "b" crossedGate = some tree ∧
      tree = ⟨[.or 1 3, .box 5 [2], .box 6 [], .and 5 4, .box 7 [], .box 8 []],
        [((0, 1), "a"), ((0, 3), "b"), ((1, 2), "below")]⟩ ∧
      Unites "a" namedChild "b" crossedGate tree) ∧
    ∃ tree, (Nest.or "c" (.leaf crossedGate) "d" (.or "a" (.leaf namedChild) "b" (.leaf crossedGate))).tree? =
      some tree ∧ tree.Rooted := by
  have first : namedChild.Rooted := ⟨by cbv, rfl⟩
  have second : crossedGate.Rooted := ⟨by cbv, rfl⟩
  obtain ⟨⟨tree, found, unites⟩, nested⟩ := combineOr_unites "a" "b" namedChild crossedGate first second
  refine ⟨⟨tree, found, ?_, unites⟩, nested _ (by simp [Nest.leaves, first, second])⟩
  exact Option.some.inj (found.symm.trans rfl)

end LinearTree
end BoxTree
