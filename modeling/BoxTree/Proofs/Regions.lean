import BoxTree.Proofs.Paths

/-! What the finite walks compute: a region holds the nodes that a node leads to, and the groups are the
parts of a graph that hang together. -/

namespace BoxTree

variable {α : Type} {arcs : List (α × α)}

/-- One node leads to another along arcs whose targets are all among the given nodes. -/
abbrev LeadsWithin (nodes : List α) (arcs : List (α × α)) : α → α → Prop :=
  Relation.ReflTransGen fun source target => Arc arcs source target ∧ target ∈ nodes

private theorem leadsWithin_iff {nodes : List α} (closed : ∀ arc ∈ arcs, arc.2 ∈ nodes) {source target : α} :
    LeadsWithin nodes arcs source target ↔ Leads arcs source target :=
  ⟨Relation.ReflTransGen.mono (fun _ _ => And.left) _ _,
    Relation.ReflTransGen.mono (fun _ _ arc => ⟨arc, closed _ arc⟩) _ _⟩

private theorem mem_bothWays {left right : α} :
    Arc (bothWays arcs) left right ↔ Arc arcs left right ∨ Arc arcs right left := by
  simp only [Arc, bothWays, List.mem_flatMap, List.mem_cons, List.not_mem_nil, or_false]
  constructor
  · intro given
    rcases given with ⟨⟨source, target⟩, member, same | same⟩
    · exact .inl (same ▸ member)
    · obtain ⟨rfl, rfl⟩ := Prod.mk.inj same
      exact .inr member
  · intro given
    rcases given with member | member
    · exact ⟨_, member, .inl rfl⟩
    · exact ⟨_, member, .inr rfl⟩

private theorem leads_bothWays {left right : α} : Leads (bothWays arcs) left right ↔ Joined arcs left right :=
  ⟨Relation.ReflTransGen.mono (fun _ _ => mem_bothWays.mp) _ _,
    Relation.ReflTransGen.mono (fun _ _ => mem_bothWays.mpr) _ _⟩

variable [DecidableEq α]

private theorem mem_targets {source target : α} : target ∈ targets arcs source ↔ Arc arcs source target := by
  simp [targets, Arc]

/-- Whatever a path leads to is the node that is taken out first, or is reached without it. -/
theorem LeadsWithin.avoids {unseen pending : List α} {first start id : α} (path : LeadsWithin unseen arcs start id)
    (pends : start ∈ first :: pending) (inside : start ∈ unseen) :
    id = first ∨ ∃ next ∈ targets arcs first ++ pending, next ∈ unseen.erase first ∧
      LeadsWithin (unseen.erase first) arcs next id := by
  induction path with
  | refl =>
    by_cases same : start = first
    · exact .inl same
    · refine .inr ⟨start, ?_, (List.mem_erase_of_ne same).mpr inside, .refl⟩
      exact List.mem_append_right _ ((List.mem_cons.mp pends).resolve_left same)
  | @tail middle id _ step ih =>
    obtain ⟨arc, member⟩ := step
    by_cases same : id = first
    · exact .inl same
    · have kept : id ∈ unseen.erase first := (List.mem_erase_of_ne same).mpr member
      rcases ih with rfl | ⟨next, listed, nextInside, path⟩
      · exact .inr ⟨id, List.mem_append_left _ (mem_targets.mpr arc), kept, .refl⟩
      · exact .inr ⟨next, listed, nextInside, path.tail ⟨arc, kept⟩⟩

theorem mem_spread {unseen pending : List α} {id : α} :
    id ∈ spread arcs unseen pending ↔ ∃ start ∈ pending, start ∈ unseen ∧ LeadsWithin unseen arcs start id := by
  induction unseen, pending using spread.induct arcs with
  | case1 unseen => simp [spread]
  | case2 unseen first pending member ih =>
    have fewer {source target : α} (path : LeadsWithin (unseen.erase first) arcs source target) :
        LeadsWithin unseen arcs source target :=
      Relation.ReflTransGen.mono (fun _ _ => And.imp_right List.mem_of_mem_erase) _ _ path
    rw [spread, if_pos member, List.mem_cons, ih]
    constructor
    · intro given
      rcases given with rfl | ⟨next, listed, inside, path⟩
      · exact ⟨id, List.mem_cons_self, member, .refl⟩
      · have inside := List.mem_of_mem_erase inside
        rcases List.mem_append.mp listed with target | pends
        · exact ⟨first, List.mem_cons_self, member, .head ⟨mem_targets.mp target, inside⟩ (fewer path)⟩
        · exact ⟨next, List.mem_cons_of_mem _ pends, inside, fewer path⟩
    · intro given
      obtain ⟨start, pends, inside, path⟩ := given
      exact path.avoids pends inside
  | case3 unseen first pending absent ih =>
    rw [spread, if_neg absent, ih]
    constructor
    · intro given
      obtain ⟨start, pends, inside, path⟩ := given
      exact ⟨start, List.mem_cons_of_mem _ pends, inside, path⟩
    · intro given
      obtain ⟨start, pends, inside, path⟩ := given
      rcases List.mem_cons.mp pends with rfl | pends
      · exact False.elim (absent inside)
      · exact ⟨start, pends, inside, path⟩

theorem mem_region {nodes : List α} (closed : ∀ arc ∈ arcs, arc.2 ∈ nodes) {source id : α} (member : source ∈ nodes) :
    id ∈ region nodes arcs source ↔ Leads arcs source id := by
  simp [region, mem_spread, leadsWithin_iff closed, member]

/-- The groups split some nodes into the parts that hang together. -/
structure Splits (arcs : List (α × α)) (nodes : List α) (groups : List (List α)) : Prop where
  cover : ∀ id ∈ nodes, ∃ group ∈ groups, id ∈ group
  part : ∀ group ∈ groups, group.Sublist nodes ∧ ∃ first ∈ nodes, ∀ id, id ∈ group ↔ id ∈ nodes ∧ Joined arcs first id
  apart : groups.Pairwise fun left right => ∀ first ∈ left, ∀ second ∈ right, ¬ Joined arcs first second

private theorem Splits.cons {id : α} {rest near : List α} {groups : List (List α)}
    (exact : ∀ other, other ∈ near ↔ Joined arcs id other) (splits : Splits arcs (rest.filter (· ∉ near)) groups) :
    Splits arcs (id :: rest) ((id :: rest.filter (· ∈ near)) :: groups) := by
  have far {group : List α} (listed : group ∈ groups) {other : α} (member : other ∈ group) :
      ¬ Joined arcs id other := by
    have kept := (splits.part group listed).1.subset member
    rw [List.mem_filter, decide_eq_true_iff, exact] at kept
    exact kept.2
  refine ⟨?_, ?_, ?_⟩
  · intro other member
    rcases List.mem_cons.mp member with rfl | member
    · exact ⟨_, List.mem_cons_self, List.mem_cons_self⟩
    · by_cases close : other ∈ near
      · exact ⟨_, List.mem_cons_self, List.mem_cons_of_mem _ (List.mem_filter.mpr ⟨member, decide_eq_true close⟩)⟩
      · obtain ⟨group, listed, inside⟩ := splits.cover other (List.mem_filter.mpr ⟨member, decide_eq_true close⟩)
        exact ⟨group, List.mem_cons_of_mem _ listed, inside⟩
  · intro group listed
    rcases List.mem_cons.mp listed with rfl | listed
    · refine ⟨List.filter_sublist.cons_cons id, id, List.mem_cons_self, ?_⟩
      intro other
      rw [List.mem_cons, List.mem_cons, List.mem_filter, decide_eq_true_iff, exact]
      have self : other = id → Joined arcs id other := fun same => same ▸ .refl
      tauto
    · obtain ⟨sublist, first, member, parts⟩ := splits.part group listed
      obtain ⟨member, off⟩ := List.mem_filter.mp member
      rw [decide_eq_true_iff, exact] at off
      refine ⟨(sublist.trans List.filter_sublist).cons id, first, List.mem_cons_of_mem _ member, ?_⟩
      intro other
      rw [parts, List.mem_filter, decide_eq_true_iff, exact, List.mem_cons]
      constructor
      · intro given
        obtain ⟨⟨inside, _⟩, joined⟩ := given
        exact ⟨.inr inside, joined⟩
      · intro given
        obtain ⟨inside, joined⟩ := given
        have away : ¬ Joined arcs id other := fun close => off (close.trans joined.symm)
        exact ⟨⟨inside.resolve_left fun same => away (same ▸ .refl), away⟩, joined⟩
  · apply List.pairwise_cons.mpr
    refine ⟨?_, splits.apart⟩
    intro group listed left leftMember right rightMember joined
    have close : Joined arcs id left := by
      rcases List.mem_cons.mp leftMember with rfl | member
      · exact .refl
      · exact (exact left).mp (of_decide_eq_true (List.mem_filter.mp member).2)
    exact far listed rightMember (close.trans joined)

/-! Components are the groups that hold an arc. -/

section Closed

variable {domain : List α} (closed : ∀ arc ∈ arcs, arc.1 ∈ domain ∧ arc.2 ∈ domain)
include closed

theorem mem_near {left right : α} (member : left ∈ domain) :
    right ∈ region domain (bothWays arcs) left ↔ Joined arcs left right := by
  rw [mem_region _ member, leads_bothWays]
  intro arc both
  rcases mem_bothWays.mp both with forth | back
  · exact (closed _ forth).2
  · exact (closed _ back).1

private theorem splits_groups {nodes : List α} (inside : ∀ id ∈ nodes, id ∈ domain) :
    Splits arcs nodes (groups domain arcs nodes) := by
  induction nodes using groups.induct domain arcs with
  | case1 => exact ⟨by simp, by simp [groups], by simp [groups]⟩
  | case2 id rest near ih =>
    rw [@List.unattach_filter _ _ rest.attach _ (fun other => decide (other ∉ near)) fun _ _ => rfl,
      List.unattach_attach] at ih
    rw [groups]
    apply Splits.cons (fun _ => mem_near closed (inside id List.mem_cons_self))
    apply ih
    intro other member
    exact inside other (List.mem_cons_of_mem _ (List.mem_filter.mp member).1)

theorem exists_component {id : α} (touched : Touched arcs id) :
    ∃ component ∈ components domain arcs, id ∈ component := by
  obtain ⟨arc, member, ends⟩ := touched
  have splits := splits_groups closed fun _ member => member
  obtain ⟨group, listed, inside⟩ := splits.cover arc.1 (closed arc member).1
  refine ⟨group, List.mem_filter.mpr ⟨listed, List.any_eq_true.mpr ⟨arc, member, decide_eq_true inside⟩⟩, ?_⟩
  obtain ⟨_, first, _, parts⟩ := splits.part group listed
  have joined := ((parts arc.1).mp inside).2
  rcases ends with rfl | rfl
  · exact inside
  · exact (parts arc.2).mpr ⟨(closed arc member).2, joined.trans (Arc.joined member)⟩

theorem component_exact {component : List α} (listed : component ∈ components domain arcs) :
    component.Sublist domain ∧ ∃ first, Touched arcs first ∧ ∀ id, id ∈ component ↔ Joined arcs first id := by
  obtain ⟨grouped, holds⟩ := List.mem_filter.mp listed
  obtain ⟨arc, member, inside⟩ := List.any_eq_true.mp holds
  obtain ⟨sublist, first, _, parts⟩ := (splits_groups closed fun _ member => member).part component grouped
  have joined := ((parts arc.1).mp (of_decide_eq_true inside)).2
  have touched : Touched arcs first := Touched.joined ⟨arc, member, .inl rfl⟩ joined.symm
  refine ⟨sublist, first, touched, fun id => (parts id).trans ⟨And.right, fun joined => ⟨?_, joined⟩⟩⟩
  obtain ⟨other, otherMember, ends⟩ := touched.joined joined
  rcases ends with rfl | rfl
  · exact (closed other otherMember).1
  · exact (closed other otherMember).2

theorem components_apart :
    (components domain arcs).Pairwise fun left right =>
      ∀ first ∈ left, ∀ second ∈ right, ¬ Joined arcs first second :=
  (splits_groups closed fun _ member => member).apart.filter _

end Closed
end BoxTree
