import BoxTree.Proofs.Regions
import BoxTree.Tree.Validity

/-! The check of linear trees accepts exactly the well-formed ones, said of the edges of a tree. -/

namespace BoxTree

/-- An edge of a tree of some size leads to a position of the tree other than its own and the root's. -/
structure EdgeInside (size : Nat) (edge : Int × Int) : Prop where
  lower : 0 ≤ edge.2
  upper : edge.2 < size
  other : edge.2 ≠ edge.1
  notRoot : edge.2 ≠ 0

/-- No two edges lead from different positions to the same one. -/
def SingleParents (edges : List (Int × Int)) : Prop :=
  ∀ left ∈ edges, ∀ right ∈ edges, left.2 = right.2 → left.1 = right.1

namespace LinearTree

variable {β : Type}

/-- A well-formed tree: edges stay inside, every position has one parent and is reached from the root,
and names stand on edges only. -/
structure WellFormed (tree : LinearTree β) : Prop where
  inside : ∀ edge ∈ tree.links, EdgeInside tree.length edge
  single : SingleParents tree.links
  reached : ∀ position : Nat, position < tree.length → Leads tree.links 0 position
  named : ∀ entry ∈ tree.edgeNames, entry.1 ∈ tree.links

theorem mem_links {tree : LinearTree β} {parent child : Int} :
    (parent, child) ∈ tree.links ↔
      ∃ (index : Nat) (node : TreeNode β), tree.nodes[index]? = some node ∧ parent = index ∧ child ∈ node.children := by
  simp only [links, List.mem_flatten, List.mem_map, Prod.exists, List.mem_zipIdx_iff_getElem?]
  constructor
  · intro given
    obtain ⟨_, ⟨node, index, found, rfl⟩, member⟩ := given
    obtain ⟨_, inside, same⟩ := List.mem_map.mp member
    obtain ⟨rfl, rfl⟩ := Prod.mk.inj same
    exact ⟨index, node, found, rfl, inside⟩
  · intro given
    obtain ⟨index, node, found, rfl, inside⟩ := given
    exact ⟨_, ⟨node, index, found, rfl⟩, List.mem_map.mpr ⟨child, inside, rfl⟩⟩

theorem parent_inside {tree : LinearTree β} {edge : Int × Int} (link : edge ∈ tree.links) :
    0 ≤ edge.1 ∧ edge.1 < tree.length := by
  obtain ⟨index, node, found, same, _⟩ := mem_links.mp link
  obtain ⟨below, _⟩ := List.getElem?_eq_some_iff.mp found
  rw [length, same]
  omega

theorem mem_positions {tree : LinearTree β} {position : Int} :
    position ∈ tree.positions ↔ 0 ≤ position ∧ position < tree.length := by
  simp only [positions, List.mem_map, List.mem_range]
  constructor
  · intro given
    obtain ⟨index, inside, rfl⟩ := given
    exact ⟨Int.natCast_nonneg index, Int.ofNat_lt.mpr inside⟩
  · intro given
    obtain ⟨lower, upper⟩ := given
    exact ⟨position.toNat, by omega, Int.toNat_of_nonneg lower⟩

private theorem edgeFault?_eq_none_iff {size : Nat} {before : List (Int × Int)} (single : SingleParents before)
    {edge : Int × Int} :
    edgeFault? size before edge = none ↔
      EdgeInside size edge ∧ ∀ other ∈ before, other.2 = edge.2 → other.1 = edge.1 := by
  unfold edgeFault?
  dsimp only
  split
  next outside =>
    constructor
    · intro none
      cases none
    · intro given
      obtain ⟨inside, _⟩ := given
      have lower := inside.lower
      have upper := inside.upper
      omega
  next range =>
    split
    next own => exact ⟨fun none => (by cases none), fun ⟨inside, _⟩ => False.elim (inside.other own)⟩
    next other =>
      split
      next root => exact ⟨fun none => (by cases none), fun ⟨inside, _⟩ => False.elim (inside.notRoot root)⟩
      next notRoot =>
        have inside : EdgeInside size edge := ⟨by omega, by omega, other, notRoot⟩
        split
        next first found =>
          have member := List.mem_of_find?_eq_some found
          have same : first.2 = edge.2 := by simpa using List.find?_some found
          constructor
          · intro accepted
            have parent : first.1 = edge.1 := by
              by_contra differs
              rw [if_neg differs] at accepted
              cases accepted
            refine ⟨inside, ?_⟩
            intro other listed equal
            exact (single other listed first member (equal.trans same.symm)).trans parent
          · intro given
            obtain ⟨_, agree⟩ := given
            exact if_pos (agree first member same)
        next absent =>
          constructor
          · intro _
            refine ⟨inside, ?_⟩
            intro other member same
            exact False.elim (List.find?_eq_none.mp absent other member (decide_eq_true same))
          · intro _
            rfl

private theorem SingleParents.concat {before : List (Int × Int)} {edge : Int × Int} :
    SingleParents (before ++ [edge]) ↔
      SingleParents before ∧ ∀ other ∈ before, other.2 = edge.2 → other.1 = edge.1 := by
  simp only [SingleParents, List.mem_append, List.mem_singleton]
  constructor
  · intro single
    exact ⟨fun left leftMember right rightMember => single left (.inl leftMember) right (.inl rightMember),
      fun other member => single other (.inl member) edge (.inr rfl)⟩
  · rintro ⟨single, agree⟩ left (leftMember | rfl) right (rightMember | rfl) same
    · exact single left leftMember right rightMember same
    · exact agree left leftMember same
    · exact (agree right rightMember same.symm).symm
    · rfl

private theorem firstEdgeFault?_eq_none_iff {size : Nat} {before edges : List (Int × Int)}
    (single : SingleParents before) :
    firstEdgeFault? size before edges = none ↔
      (∀ edge ∈ edges, EdgeInside size edge) ∧ SingleParents (before ++ edges) := by
  induction edges generalizing before with
  | nil => simp [firstEdgeFault?, single]
  | cons edge rest ih =>
    rw [firstEdgeFault?, Option.or_eq_none_iff, edgeFault?_eq_none_iff single, List.forall_mem_cons]
    constructor
    · intro given
      obtain ⟨⟨inside, agree⟩, none⟩ := given
      obtain ⟨others, all⟩ := (ih (SingleParents.concat.mpr ⟨single, agree⟩)).mp none
      exact ⟨⟨inside, others⟩, by simpa using all⟩
    · intro given
      obtain ⟨⟨inside, others⟩, all⟩ := given
      have all : SingleParents ((before ++ [edge]) ++ rest) := by simpa using all
      have first : SingleParents (before ++ [edge]) := fun left leftMember right rightMember =>
        all left (List.mem_append_left _ leftMember) right (List.mem_append_left _ rightMember)
      exact ⟨⟨inside, (SingleParents.concat.mp first).2⟩, (ih first).mpr ⟨others, all⟩⟩

private theorem unreached_eq_nil_iff {tree : LinearTree β} (inside : ∀ edge ∈ tree.links, EdgeInside tree.length edge) :
    tree.unreached = [] ↔ ∀ position : Nat, position < tree.length → Leads tree.links 0 position := by
  have closed : ∀ edge ∈ tree.links, edge.2 ∈ tree.positions :=
    fun edge member => mem_positions.mpr ⟨(inside edge member).lower, (inside edge member).upper⟩
  have region {position : Nat} (below : position < tree.length) :
      (position : Int) ∈ region tree.positions tree.links 0 ↔ Leads tree.links 0 position :=
    mem_region closed (mem_positions.mpr ⟨Int.le_refl 0, by omega⟩)
  simp only [unreached, List.filter_eq_nil_iff, decide_eq_true_iff, not_not]
  constructor
  · intro all position below
    exact (region below).mp (all position (mem_positions.mpr ⟨by omega, by omega⟩))
  · intro all position member
    obtain ⟨lower, upper⟩ := mem_positions.mp member
    obtain ⟨index, rfl⟩ := Int.eq_ofNat_of_zero_le lower
    exact (region (by omega)).mpr (all index (by omega))

theorem isValid_iff_wellFormed (tree : LinearTree β) : tree.isValid = true ↔ tree.WellFormed := by
  have start : SingleParents [] := by simp [SingleParents]
  rw [isValid, Option.isNone_iff_eq_none, fault?]
  constructor
  · intro accepted
    split at accepted
    next => cases accepted
    next noFault =>
      obtain ⟨inside, single⟩ := (firstEdgeFault?_eq_none_iff start).mp noFault
      split at accepted
      next => cases accepted
      next reached =>
        have reached : tree.unreached = [] := by simpa using reached
        refine ⟨inside, single, (unreached_eq_nil_iff inside).mp reached, ?_⟩
        intro entry member
        simpa using List.find?_eq_none.mp (Option.map_eq_none_iff.mp accepted) entry member
  · intro wellFormed
    have noFault := (firstEdgeFault?_eq_none_iff start).mpr ⟨wellFormed.inside, wellFormed.single⟩
    have reached := (unreached_eq_nil_iff wellFormed.inside).mpr wellFormed.reached
    rw [noFault, reached]
    apply Option.map_eq_none_iff.mpr
    apply List.find?_eq_none.mpr
    intro entry member
    simpa using wellFormed.named entry member

end LinearTree
end BoxTree
