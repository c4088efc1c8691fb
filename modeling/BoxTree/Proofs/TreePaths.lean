import BoxTree.Proofs.TreeGraph

/-! Paths in linear trees. In a well-formed tree parents are unique and the root has none, so the way back from a
position is settled step by step: exactly one path leads to it from the root. -/

namespace BoxTree

section Paths

variable {α : Type} {arcs : List (α × α)} {source target : α}

/-- The nodes that arcs lead along, from one node to another, with both ends. -/
structure IsPath (arcs : List (α × α)) (source target : α) (path : List α) : Prop where
  first : path.head? = some source
  last : path.getLast? = some target
  along : path.IsChain (Arc arcs)

theorem isPath_concat_iff {path : List α} {last : α} :
    IsPath arcs source target (path ++ [last]) ↔
      last = target ∧ (path = [] ∧ last = source ∨ ∃ middle, IsPath arcs source middle path ∧ Arc arcs middle last) := by
  constructor
  · intro isPath
    have same : last = target := by simpa using isPath.last
    refine ⟨same, ?_⟩
    obtain ⟨before, _, arc⟩ := List.isChain_append.mp isPath.along
    rcases List.eq_nil_or_concat path with rfl | ⟨init, middle, rfl⟩
    · exact .inl ⟨rfl, by simpa using isPath.first⟩
    · refine .inr ⟨middle, ⟨?_, by simp, before⟩, arc middle (by simp) last (by simp)⟩
      have first := isPath.first
      cases init <;> simpa using first
  · rintro ⟨rfl, ⟨rfl, rfl⟩ | ⟨middle, isPath, arc⟩⟩
    · exact ⟨rfl, rfl, .singleton _⟩
    · refine ⟨by simp [isPath.first], by simp, List.isChain_append.mpr ⟨isPath.along, .singleton _, ?_⟩⟩
      intro other listed next isNext
      obtain rfl : middle = other := Option.some.inj (isPath.last.symm.trans listed)
      obtain rfl : last = next := by simpa using isNext
      exact arc

private theorem exists_path (leads : Leads arcs source target) : ∃ path, IsPath arcs source target path := by
  induction leads with
  | refl => exact ⟨[source], rfl, rfl, .singleton _⟩
  | @tail middle target _ arc ih =>
    obtain ⟨path, isPath⟩ := ih
    exact ⟨path ++ [target], isPath_concat_iff.mpr ⟨rfl, .inr ⟨middle, isPath, arc⟩⟩⟩

private theorem Branching.path_unique {root : α} (branching : Branching arcs root) {left right : List α}
    (isLeft : IsPath arcs root target left) (isRight : IsPath arcs root target right) : left = right := by
  induction left using List.reverseRecOn generalizing target right with
  | nil => cases isLeft.first
  | append_singleton left last ih =>
    obtain ⟨rfl, leftEnds⟩ := isPath_concat_iff.mp isLeft
    rcases List.eq_nil_or_concat right with rfl | ⟨right, other, rfl⟩
    · cases isRight.first
    rw [List.concat_eq_append] at isRight ⊢
    obtain ⟨rfl, rightEnds⟩ := isPath_concat_iff.mp isRight
    rcases leftEnds with ⟨rfl, rfl⟩ | ⟨leftParent, leftPath, leftArc⟩
    · rcases rightEnds with ⟨rfl, _⟩ | ⟨_, _, arc⟩
      · rfl
      · exact False.elim (branching.entered _ arc)
    · rcases rightEnds with ⟨_, rfl⟩ | ⟨rightParent, rightPath, rightArc⟩
      · exact False.elim (branching.entered _ leftArc)
      · obtain rfl := branching.single _ _ _ leftArc rightArc
        rw [ih leftPath rightPath]

end Paths

namespace LinearTree

variable {β : Type} {tree : LinearTree β}

/-- The node at one position lists the other position as a child. -/
def IsChild (tree : LinearTree β) (parent child : Int) : Prop :=
  ∃ (index : Nat) (node : TreeNode β), tree.nodes[index]? = some node ∧ parent = index ∧ child ∈ node.children

theorem arc_links : Arc tree.links = tree.IsChild := by
  funext parent child
  exact propext mem_links

private theorem wellFormed_iff : tree.WellFormed ↔
    (∀ parent child, tree.IsChild parent child → 0 ≤ child ∧ child < tree.length ∧ child ≠ parent) ∧
      (∀ parent, ¬ tree.IsChild parent 0) ∧
      (∀ first second child, tree.IsChild first child → tree.IsChild second child → first = second) ∧
      (∀ position : Nat, position < tree.length → Relation.ReflTransGen tree.IsChild 0 position) ∧
      ∀ entry ∈ tree.edgeNames, tree.IsChild entry.1.1 entry.1.2 := by
  constructor
  · intro wellFormed
    simp only [← arc_links]
    refine ⟨fun parent child link => ?_, fun parent link => (wellFormed.inside _ link).notRoot rfl,
      fun first second child left right => wellFormed.single _ left _ right rfl, wellFormed.reached, wellFormed.named⟩
    have inside := wellFormed.inside _ link
    exact ⟨inside.lower, inside.upper, inside.other⟩
  · simp only [← arc_links]
    rintro ⟨inside, notRoot, single, reached, named⟩
    refine ⟨?_, ?_, reached, named⟩
    · rintro ⟨parent, child⟩ link
      obtain ⟨lower, upper, other⟩ := inside parent child link
      exact ⟨lower, upper, other, fun root => notRoot parent (root ▸ link)⟩
    · rintro ⟨first, child⟩ left ⟨second, _⟩ right rfl
      exact single first second child left right

private theorem WellFormed.branches (wellFormed : tree.WellFormed) : Branching tree.links 0 := by
  simpa using wellFormed.branching Function.injective_id

/-- The check accepts a tree exactly if children are other positions inside of it, the root is nobody's child, no position
is a child of two others, the root leads to every position, and names stand between parents and their children. In
such a tree nothing is below itself, and one path leads from the root to each position. -/
theorem isValid_iff_rooted (tree : LinearTree β) :
    (tree.isValid = true ↔
      (∀ parent child, tree.IsChild parent child → 0 ≤ child ∧ child < tree.length ∧ child ≠ parent) ∧
        (∀ parent, ¬ tree.IsChild parent 0) ∧
        (∀ first second child, tree.IsChild first child → tree.IsChild second child → first = second) ∧
        (∀ position : Nat, position < tree.length → Relation.ReflTransGen tree.IsChild 0 position) ∧
        ∀ entry ∈ tree.edgeNames, tree.IsChild entry.1.1 entry.1.2) ∧
      (tree.isValid = true →
        (∀ position, ¬ Relation.TransGen tree.IsChild position position) ∧
          ∀ position : Nat, position < tree.length →
            ∃! path : List Int, path.head? = some 0 ∧ path.getLast? = some (position : Int) ∧
              path.IsChain tree.IsChild) := by
  rw [isValid_iff_wellFormed]
  refine ⟨wellFormed_iff, ?_⟩
  intro wellFormed
  rw [← arc_links]
  refine ⟨wellFormed.branches.acyclic, ?_⟩
  intro position below
  obtain ⟨path, isPath⟩ := exists_path (wellFormed.reached position below)
  refine ⟨path, ⟨isPath.first, isPath.last, isPath.along⟩, ?_⟩
  rintro other ⟨first, last, along⟩
  exact wellFormed.branches.path_unique ⟨first, last, along⟩ isPath

end LinearTree
end BoxTree
