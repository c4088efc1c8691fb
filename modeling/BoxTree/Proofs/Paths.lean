import BoxTree.Graph.Reach
import Mathlib.Data.Set.Finite.List
import Mathlib.Logic.Relation
import Mathlib.Order.WellFounded

/-! Paths along arcs, cycles, and nodes that hang together. Arcs are finitely many, so a node without
a cycle behind it has a first ancestor. -/

namespace BoxTree

variable {α : Type}

def Arc (arcs : List (α × α)) (source target : α) : Prop := (source, target) ∈ arcs

/-- One node leads to another along arcs. Every node leads to itself. -/
abbrev Leads (arcs : List (α × α)) : α → α → Prop := Relation.ReflTransGen (Arc arcs)

/-- A node leads back to itself along at least one arc. -/
def OnCycle (arcs : List (α × α)) (id : α) : Prop := Relation.TransGen (Arc arcs) id id

def Acyclic (arcs : List (α × α)) : Prop := ∀ id, ¬ OnCycle arcs id

/-- Neither a node nor any of its ancestors lies on a cycle. -/
def Grounded (arcs : List (α × α)) (id : α) : Prop := ∀ ancestor, Leads arcs ancestor id → ¬ OnCycle arcs ancestor

/-- Two nodes hang together when the directions of arcs are ignored. -/
abbrev Joined (arcs : List (α × α)) : α → α → Prop :=
  Relation.ReflTransGen fun left right => Arc arcs left right ∨ Arc arcs right left

def Touched (arcs : List (α × α)) (id : α) : Prop := ∃ arc ∈ arcs, arc.1 = id ∨ arc.2 = id

structure IsRoot (arcs : List (α × α)) (id : α) : Prop where
  touched : Touched arcs id
  entered : ∀ source, ¬ Arc arcs source id

/-- Every node of an order comes after all of its parents. -/
def ParentsFirst (arcs : List (α × α)) (order : List α) : Prop :=
  ∀ before id after, order = before ++ id :: after → ∀ parent, Arc arcs parent id → parent ∈ before

variable {arcs : List (α × α)}

theorem Arc.touched_source {source target : α} (arc : Arc arcs source target) : Touched arcs source :=
  ⟨_, arc, .inl rfl⟩

theorem Arc.touched_target {source target : α} (arc : Arc arcs source target) : Touched arcs target :=
  ⟨_, arc, .inr rfl⟩

theorem OnCycle.touched {id : α} (cycle : OnCycle arcs id) : Touched arcs id := by
  obtain ⟨_, _, arc⟩ := Relation.TransGen.tail'_iff.mp cycle
  exact arc.touched_target

theorem Touched.mono {others : List (α × α)} (more : arcs ⊆ others) {id : α} (touched : Touched arcs id) :
    Touched others id := by
  obtain ⟨arc, member, ends⟩ := touched
  exact ⟨arc, more member, ends⟩

theorem Leads.mono {others : List (α × α)} (more : arcs ⊆ others) {source target : α}
    (path : Leads arcs source target) : Leads others source target :=
  Relation.ReflTransGen.mono (fun _ _ arc => more arc) _ _ path

theorem OnCycle.mono {others : List (α × α)} (more : arcs ⊆ others) {id : α} (cycle : OnCycle arcs id) :
    OnCycle others id :=
  Relation.TransGen.mono (fun _ _ arc => more arc) _ _ cycle

theorem Grounded.anti {others : List (α × α)} (fewer : others ⊆ arcs) {id : α} (grounded : Grounded arcs id) :
    Grounded others id :=
  fun ancestor path cycle => grounded ancestor (path.mono fewer) (cycle.mono fewer)

theorem Acyclic.grounded (acyclic : Acyclic arcs) (id : α) : Grounded arcs id := fun ancestor _ => acyclic ancestor

theorem Touched.parent {id : α} (touched : Touched arcs id) (inner : ¬ IsRoot arcs id) :
    ∃ parent, Arc arcs parent id := by
  by_contra none
  exact inner ⟨touched, fun source arc => none ⟨source, arc⟩⟩

theorem IsRoot.eq_of_leads {root id : α} (isRoot : IsRoot arcs root) (path : Leads arcs id root) : id = root := by
  rcases Relation.ReflTransGen.cases_tail path with same | ⟨_, _, arc⟩
  · exact same.symm
  · exact False.elim (isRoot.entered _ arc)

theorem IsRoot.grounded {root : α} (isRoot : IsRoot arcs root) : Grounded arcs root := by
  intro ancestor path cycle
  obtain rfl := isRoot.eq_of_leads path
  obtain ⟨_, _, arc⟩ := Relation.TransGen.tail'_iff.mp cycle
  exact isRoot.entered _ arc

theorem Joined.symm {left right : α} (joined : Joined arcs left right) : Joined arcs right left :=
  have : Std.Symm fun left right => Arc arcs left right ∨ Arc arcs right left := ⟨fun _ _ => Or.symm⟩
  Relation.ReflTransGen.stdSymm.symm _ _ joined

theorem Leads.joined {source target : α} (path : Leads arcs source target) : Joined arcs source target :=
  Relation.ReflTransGen.mono (fun _ _ => Or.inl) _ _ path

theorem Arc.joined {source target : α} (arc : Arc arcs source target) : Joined arcs source target :=
  .single (.inl arc)

theorem Touched.joined {left right : α} (touched : Touched arcs left) (joined : Joined arcs left right) :
    Touched arcs right := by
  rcases Relation.ReflTransGen.cases_tail joined with rfl | ⟨_, _, arc | arc⟩
  · exact touched
  · exact arc.touched_target
  · exact arc.touched_source

/-- On the way from inside a set of nodes to outside of it, some arc crosses the border. -/
theorem Joined.crosses {start id : α} (joined : Joined arcs start id) (inside : α → Prop)
    (first : inside start) (last : ¬ inside id) :
    ∃ left right, Joined arcs start left ∧ inside left ∧ ¬ inside right ∧
      (Arc arcs left right ∨ Arc arcs right left) := by
  induction joined with
  | refl => exact False.elim (last first)
  | @tail left right path arc ih =>
    by_cases reached : inside left
    · exact ⟨left, right, path, reached, last, arc⟩
    · exact ih reached

/-- Among finitely many nodes with a parent each, one lies on a cycle: the ancestors of a node cannot
differ forever. -/
theorem exists_onCycle {kept : α → Prop} {nodes : List α} (finite : ∀ id, kept id → id ∈ nodes)
    {start : α} (first : kept start) (fed : ∀ id, kept id → ∃ parent, kept parent ∧ Arc arcs parent id) :
    ∃ id, kept id ∧ OnCycle arcs id := by
  by_contra none
  have : Finite {id // kept id} := (nodes.finite_toSet.subset finite).to_subtype
  let above (left right : {id // kept id}) : Prop := Relation.TransGen (Arc arcs) left.1 right.1
  have : IsTrans _ above := ⟨fun _ _ _ => Relation.TransGen.trans⟩
  have : Std.Irrefl above := ⟨fun id cycle => none ⟨id.1, id.2, cycle⟩⟩
  have founded : WellFounded above := Finite.wellFounded_of_trans_of_irrefl above
  obtain ⟨least, _, minimal⟩ := founded.has_min Set.univ ⟨⟨start, first⟩, trivial⟩
  obtain ⟨parent, member, arc⟩ := fed least.1 least.2
  exact minimal ⟨parent, member⟩ trivial (.single arc)

theorem Grounded.exists_root {id : α} (grounded : Grounded arcs id) (touched : Touched arcs id) :
    ∃ root, IsRoot arcs root ∧ Leads arcs root id := by
  by_contra none
  have start {ancestor : α} (path : Leads arcs ancestor id) : Touched arcs ancestor := by
    rcases Relation.ReflTransGen.cases_head path with rfl | ⟨_, arc, _⟩
    · exact touched
    · exact arc.touched_source
  have finite : ∀ ancestor, Leads arcs ancestor id → ancestor ∈ id :: arcs.map Prod.fst := by
    intro ancestor path
    rcases Relation.ReflTransGen.cases_head path with rfl | ⟨_, arc, _⟩
    · exact List.mem_cons_self
    · exact List.mem_cons_of_mem _ (List.mem_map.mpr ⟨_, arc, rfl⟩)
  obtain ⟨ancestor, path, cycle⟩ := exists_onCycle finite .refl fun ancestor path => by
    obtain ⟨parent, arc⟩ := (start path).parent fun isRoot => none ⟨ancestor, isRoot, path⟩
    exact ⟨parent, .head arc path, arc⟩
  exact grounded ancestor path cycle

section ParentsFirst

variable {order : List α}

theorem ParentsFirst.concat (sorted : ParentsFirst arcs order) {id : α}
    (ready : ∀ parent, Arc arcs parent id → parent ∈ order) : ParentsFirst arcs (order ++ [id]) := by
  intro before other after same parent arc
  rcases List.eq_nil_or_concat after with rfl | ⟨middle, last, rfl⟩
  · obtain ⟨rfl, equal⟩ := List.append_inj' same rfl
    cases equal
    exact ready parent arc
  · have longer : order ++ [id] = (before ++ other :: middle) ++ [last] := by simpa using same
    obtain ⟨rfl, _⟩ := List.append_inj' longer rfl
    exact sorted before other middle rfl parent arc

theorem ParentsFirst.parent_mem (sorted : ParentsFirst arcs order) {parent id : α} (member : id ∈ order)
    (arc : Arc arcs parent id) : parent ∈ order := by
  obtain ⟨before, after, rfl⟩ := List.append_of_mem member
  exact List.mem_append_left _ (sorted before id after rfl parent arc)

private theorem ParentsFirst.ancestor_mem (sorted : ParentsFirst arcs order) {ancestor id : α}
    (path : Leads arcs ancestor id) (member : id ∈ order) : ancestor ∈ order := by
  induction path with
  | refl => exact member
  | tail _ arc ih => exact ih (sorted.parent_mem member arc)

variable [DecidableEq α]

theorem ParentsFirst.idxOf_lt (sorted : ParentsFirst arcs order) {parent id : α} (member : id ∈ order)
    (arc : Arc arcs parent id) : order.idxOf parent < order.idxOf id := by
  obtain ⟨before, after, rfl, absent⟩ := List.eq_append_cons_of_mem member
  have earlier : parent ∈ before := sorted before id after rfl parent arc
  rw [List.idxOf_append, List.idxOf_append, if_pos earlier, if_neg absent, List.idxOf_cons_self]
  exact Nat.lt_of_lt_of_le (List.idxOf_lt_length_of_mem earlier) (Nat.le_add_left _ _)

/-- A sorted order holds no node of a cycle: every step along the cycle would lead further down. -/
theorem ParentsFirst.not_onCycle (sorted : ParentsFirst arcs order) {id : α} (member : id ∈ order) :
    ¬ OnCycle arcs id := by
  have later {source target : α} (path : Relation.TransGen (Arc arcs) source target) :
      target ∈ order → order.idxOf source < order.idxOf target := by
    intro member
    induction path with
    | single arc => exact sorted.idxOf_lt member arc
    | tail _ arc ih => exact Nat.lt_trans (ih (sorted.parent_mem member arc)) (sorted.idxOf_lt member arc)
  exact fun cycle => Nat.lt_irrefl _ (later cycle member)

theorem ParentsFirst.grounded (sorted : ParentsFirst arcs order) {id : α} (member : id ∈ order) :
    Grounded arcs id :=
  fun _ path => sorted.not_onCycle (sorted.ancestor_mem path member)

end ParentsFirst
end BoxTree
