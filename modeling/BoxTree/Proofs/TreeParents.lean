import BoxTree.Proofs.Lookups
import BoxTree.Proofs.TreeBuild
import Mathlib

/-! Parents and children in trees that are built, said by places of the order alone: of the places that point at a node
its parent is the one that ranks highest, whatever the order of the edges. -/

namespace BoxTree

variable {α β γ : Type}

/-- Items stand in the order in which they are read first. -/
theorem pairwise_eraseDups_filterMap [DecidableEq γ] {δ : Type} (read : δ → Option γ) (sources : List δ) :
    (sources.filterMap read).eraseDups.Pairwise fun first second =>
      sources.findIdx (fun source => read source = some first) < sources.findIdx fun source => read source = some second := by
  induction sources with
  | nil => exact .nil
  | cons source rest ih =>
    cases found : read source with
    | none =>
      rw [List.filterMap_cons_none found]
      exact ih.imp fun less => by simpa [List.findIdx_cons, found] using less
    | some item =>
      rw [List.filterMap_cons_some found, eraseDups_cons_eq, List.pairwise_cons]
      have differs {other : γ} (member : other ∈ (rest.filterMap read).eraseDups.filter (!· == item)) :
          item ≠ other := by
        have apart : other ≠ item := by simpa using (List.mem_filter.mp member).2
        exact apart.symm
      constructor
      · intro other member
        simp [List.findIdx_cons, found, differs member]
      · apply (ih.filter _).imp_of_mem
        intro left right leftMember rightMember less
        simpa [List.findIdx_cons, found, differs leftMember, differs rightMember] using less

namespace Build

section Places

variable [DecidableEq α] (order : List (Node α β)) (edges : List (Edge α))

/-- Whether an edge leads from the node at one place to the node at another. -/
def isBetween (parent child : Nat) (edge : Edge α) : Bool :=
  (order.map (·.id))[parent]? = some edge.source ∧ (order.map (·.id))[child]? = some edge.target

def Points (parent child : Nat) : Prop := parent ≠ child ∧ ∃ edge ∈ edges, isBetween order parent child edge = true

omit [DecidableEq α] in
/-- Gates are above boxes, and of two gates or two boxes the later one is above the other. -/
def weight (place : Nat) : Bool ×ₗ Nat := toLex (order[place]?.any (·.isGate), place)

/-- Of the places that point at a child, its parent is the highest. -/
structure IsParent (parent child : Nat) : Prop where
  points : Points order edges parent child
  highest : ∀ other, Points order edges other child → weight order other ≤ weight order parent

def firstEdge (parent child : Nat) : Nat := edges.findIdx (isBetween order parent child)

/-- The children of a place, each once, by their first edges. -/
structure IsChildList (parent : Nat) (children : List Nat) : Prop where
  members : ∀ child, child ∈ children ↔ IsParent order edges parent child
  ordered : children.Pairwise fun first second => firstEdge order edges parent first < firstEdge order edges parent second

end Places

variable [DecidableEq α] {order : List (Node α β)} {edges : List (Edge α)}

private theorem above_eq_false_iff {left right : Bool × Nat} : above left right = false ↔ toLex left ≤ toLex right := by
  obtain ⟨leftGate, left⟩ := left
  obtain ⟨rightGate, right⟩ := right
  cases leftGate <;> cases rightGate <;> simp [above, Prod.Lex.toLex_le_toLex]

theorem isBetween_iff {parent child : Nat} {edge : Edge α} : isBetween order parent child edge = true ↔
    (order.map (·.id))[parent]? = some edge.source ∧ (order.map (·.id))[child]? = some edge.target := by
  simp [isBetween]

private theorem Points.congr {others : List (Edge α)} (same : ∀ edge, edge ∈ edges ↔ edge ∈ others)
    {parent child : Nat} :
    Points order edges parent child ↔ Points order others parent child := by
  simp only [Points, same]

private theorem IsParent.congr {others : List (Edge α)} (same : ∀ edge, edge ∈ edges ↔ edge ∈ others)
    {parent child : Nat} :
    IsParent order edges parent child ↔ IsParent order others parent child := by
  constructor
  · rintro ⟨points, highest⟩
    exact ⟨(Points.congr same).mp points, fun other isPoint => highest other ((Points.congr same).mpr isPoint)⟩
  · rintro ⟨points, highest⟩
    exact ⟨(Points.congr same).mpr points, fun other isPoint => highest other ((Points.congr same).mp isPoint)⟩

theorem IsParent.eq {first second child : Nat} (left : IsParent order edges first child)
    (right : IsParent order edges second child) : first = second := by
  have same := le_antisymm (right.highest first left.points) (left.highest second right.points)
  exact congrArg (fun weight => (ofLex weight).2) same

theorem exists_isParent {other child : Nat} (points : Points order edges other child) :
    ∃ parent, IsParent order edges parent child := by
  have finite : {place | Points order edges place child}.Finite := by
    apply (List.range order.length).finite_toSet.subset
    rintro place ⟨_, edge, _, between⟩
    obtain ⟨below, _⟩ := List.getElem?_eq_some_iff.mp (isBetween_iff.mp between).1
    simpa using below
  obtain ⟨parent, isPoint, highest⟩ := Set.exists_max_image _ (weight order) finite ⟨other, points⟩
  exact ⟨parent, isPoint, highest⟩

section Unique

variable (unique : (order.map (·.id)).Nodup)
include unique

private theorem place_eq {id : α} {first second : Nat} (left : (order.map (·.id))[first]? = some id)
    (right : (order.map (·.id))[second]? = some id) : first = second := by
  rw [← place?_eq_some_iff unique] at left right
  exact Option.some.inj (left.symm.trans right)

private theorem rank_eq_weight {id : α} {place : Nat} (found : (order.map (·.id))[place]? = some id) :
    rank order id = ofLex (weight order place) := by
  have placed := (place?_eq_some_iff unique).mpr found
  rw [List.getElem?_map, Option.map_eq_some_iff] at found
  obtain ⟨node, found, rfl⟩ := found
  have known := (findNode?_eq_some_iff unique).mpr ⟨List.mem_of_getElem? found, rfl⟩
  simp [rank, weight, placed, known, found]

private theorem points_iff {parent child : Nat} {id : α} (isChild : (order.map (·.id))[child]? = some id) :
    Points order edges parent child ↔
      ∃ edge, Enters order edges id edge ∧ (order.map (·.id))[parent]? = some edge.source := by
  constructor
  · rintro ⟨other, edge, member, between⟩
    obtain ⟨source, target⟩ := isBetween_iff.mp between
    have same : edge.target = id := Option.some.inj (target.symm.trans isChild)
    refine ⟨edge, ⟨member, isInner_iff.mpr ⟨List.mem_of_getElem? source, List.mem_of_getElem? target, ?_⟩, same⟩, source⟩
    intro loop
    exact other (place_eq unique source (loop ▸ target))
  · rintro ⟨edge, enters, source⟩
    have target := enters.target.symm ▸ isChild
    refine ⟨?_, edge, enters.member, isBetween_iff.mpr ⟨source, target⟩⟩
    rintro rfl
    exact (isInner_iff.mp enters.inner).2.2 (Option.some.inj (source.symm.trans target))

theorem treeParent?_eq_some_iff {parent child : Nat} {source target : α}
    (isSource : (order.map (·.id))[parent]? = some source) (isTarget : (order.map (·.id))[child]? = some target) :
    treeParent? order edges target = some source ↔ IsParent order edges parent child := by
  have below {first second : Nat} {left right : α} (isLeft : (order.map (·.id))[first]? = some left)
      (isRight : (order.map (·.id))[second]? = some right) :
      above (rank order left) (rank order right) = false ↔ weight order first ≤ weight order second := by
    rw [rank_eq_weight unique isLeft, rank_eq_weight unique isRight, above_eq_false_iff, toLex_ofLex, toLex_ofLex]
  constructor
  · intro found
    obtain ⟨edge, enters, rfl⟩ := enters_of_treeParent found
    obtain ⟨chosen, again, _, highest⟩ := exists_treeParent enters
    obtain rfl := Option.some.inj (found.symm.trans again)
    refine ⟨(points_iff unique isTarget).mpr ⟨edge, enters, isSource⟩, ?_⟩
    intro other points
    obtain ⟨rival, rivalEnters, isRival⟩ := (points_iff unique isTarget).mp points
    exact (below isRival isSource).mp (highest rival rivalEnters)
  · intro isParent
    obtain ⟨edge, enters, isEdge⟩ := (points_iff unique isTarget).mp isParent.points
    obtain rfl := Option.some.inj (isSource.symm.trans isEdge)
    obtain ⟨chosen, found, ⟨best, bestEnters, rfl⟩, highest⟩ := exists_treeParent enters
    obtain ⟨place, isBest⟩ := List.mem_iff_getElem?.mp (isInner_iff.mp bestEnters.inner).1
    have atMost := isParent.highest place ((points_iff unique isTarget).mpr ⟨best, bestEnters, isBest⟩)
    have atLeast := (below isSource isBest).mp (highest edge enters)
    have same : place = parent := congrArg (fun weight => (ofLex weight).2) (le_antisymm atMost atLeast)
    rw [found, ← isBest, same, isSource]

theorem treeParent?_eq_some_iff_exists {child : Nat} {source target : α}
    (isTarget : (order.map (·.id))[child]? = some target) : treeParent? order edges target = some source ↔
      ∃ parent : Nat, (order.map (·.id))[parent]? = some source ∧ IsParent order edges parent child := by
  constructor
  · intro found
    obtain ⟨edge, enters, rfl⟩ := enters_of_treeParent found
    obtain ⟨parent, isSource⟩ := List.mem_iff_getElem?.mp (isInner_iff.mp enters.inner).1
    exact ⟨parent, isSource, (treeParent?_eq_some_iff unique isSource isTarget).mp found⟩
  · rintro ⟨parent, isSource, isParent⟩
    exact (treeParent?_eq_some_iff unique isSource isTarget).mpr isParent

theorem treeParent?_congr {others : List (Edge α)} (same : ∀ edge, edge ∈ edges ↔ edge ∈ others) (id : α) :
    treeParent? order edges id = treeParent? order others id := by
  by_cases member : id ∈ order.map (·.id)
  · obtain ⟨child, isTarget⟩ := List.mem_iff_getElem?.mp member
    ext source
    simp only [treeParent?_eq_some_iff_exists unique isTarget, IsParent.congr same]
  · have outside (edges : List (Edge α)) : treeParent? order edges id = none := by
      rw [Option.eq_none_iff_forall_ne_some]
      intro source found
      obtain ⟨edge, enters, rfl⟩ := enters_of_treeParent found
      exact member (enters.target ▸ (isInner_iff.mp enters.inner).2.1)
    rw [outside, outside]

private theorem reads_child_iff {parent child : Nat} {id : α} {edge : Edge α}
    (isParent : (order.map (·.id))[parent]? = some id) :
    treeParent? order edges edge.target = some edge.source ∧ edge.source = id ∧ place? edge.target order = some child ↔
      IsParent order edges parent child ∧ isBetween order parent child edge = true := by
  rw [isBetween_iff, place?_eq_some_iff unique]
  constructor
  · rintro ⟨found, rfl, isChild⟩
    exact ⟨(treeParent?_eq_some_iff unique isParent isChild).mp found, isParent, isChild⟩
  · rintro ⟨chosen, source, isChild⟩
    exact ⟨(treeParent?_eq_some_iff unique source isChild).mpr chosen, Option.some.inj (source.symm.trans isParent), isChild⟩

theorem isChildList_childPlaces {parent : Nat} {id : α} (isParent : (order.map (·.id))[parent]? = some id) :
    IsChildList order edges parent (childPlaces order (treeEdges order edges) id) := by
  have members (child : Nat) :
      child ∈ childPlaces order (treeEdges order edges) id ↔ IsParent order edges parent child := by
    simp only [mem_childPlaces, mem_treeEdges, and_assoc, reads_child_iff unique isParent]
    constructor
    · rintro ⟨_, _, chosen, _⟩
      exact chosen
    · intro chosen
      obtain ⟨_, edge, member, between⟩ := chosen.points
      exact ⟨edge, member, chosen, between⟩
  refine ⟨members, ?_⟩
  let read (edge : Edge α) : Option Nat :=
    if treeParent? order edges edge.target = some edge.source ∧ edge.source = id then place? edge.target order else none
  have whole : childPlaces order (treeEdges order edges) id = (edges.filterMap read).eraseDups := by
    rw [childPlaces, treeEdges, List.filter_filter, List.filterMap_filter]
    simp only [read, Bool.and_eq_true, decide_eq_true_eq, and_comm]
  have first {child : Nat} (listed : child ∈ childPlaces order (treeEdges order edges) id) :
      edges.findIdx (fun edge => read edge = some child) = firstEdge order edges parent child := by
    rw [firstEdge]
    congr 1
    funext edge
    have chosen := (members child).mp listed
    rw [← Bool.coe_iff_coe, decide_eq_true_iff, ← and_iff_right (b := isBetween order parent child edge = true) chosen,
      ← reads_child_iff unique isParent, ← and_assoc]
    simp only [read, Option.ite_none_right_eq_some]
  have ordered := whole ▸ pairwise_eraseDups_filterMap read edges
  exact ordered.imp_of_mem fun left right less => by rwa [first left, first right] at less

end Unique
end Build
end BoxTree
