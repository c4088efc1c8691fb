import BoxTree.Proofs.BuildExact
import BoxTree.Proofs.TreeComposition

/-! Names given to an edge of a tree. A tree may list several of them for one edge. Asking for the name of the edge
gives the first; the mapping of names, and so the graph of the tree, has the last. Trees that name no edge twice show
no such difference, and trees made by building and by putting such trees together are of that kind. -/

namespace BoxTree

variable {α β : Type}

namespace LinearTree

def givenNames (tree : LinearTree β) (key : EdgeKey) : List Wording :=
  (tree.edgeNames.filter fun entry => entry.1 = key).map (·.2)

/-- No edge is named twice. -/
def NamesOnce (tree : LinearTree β) : Prop := (tree.edgeNames.map (·.1)).Nodup

instance (tree : LinearTree β) : Decidable tree.NamesOnce :=
  inferInstanceAs (Decidable (tree.edgeNames.map (·.1)).Nodup)

/-- The name asked for is the one in the mapping, or the one that an edge without a name goes by. -/
def NamesAgree (tree : LinearTree β) (unnamed : Wording) (key : EdgeKey) : Prop :=
  tree.edgeName unnamed key.1 key.2 = (tree.edgeNameMap.lookup key).getD (unnamed ++ s!"_{key.1}_{key.2}")

section Lookup

variable (tree : LinearTree β) (unnamed : Wording) (key : EdgeKey)

private theorem lookup_cons_eq_ite (entry : EdgeKey × Wording) (names : List (EdgeKey × Wording)) :
    (entry :: names).lookup key = if entry.1 = key then some entry.2 else names.lookup key := by
  rw [List.lookup_cons, beq_eq_decide]
  by_cases same : entry.1 = key
  · rw [if_pos same, decide_eq_true same.symm]
  · rw [if_neg same, decide_eq_false (Ne.symm same)]

private theorem lookup_edgeNames : tree.edgeNames.lookup key = (tree.givenNames key).head? := by
  unfold givenNames
  induction tree.edgeNames with
  | nil => rfl
  | cons entry rest ih =>
    rw [lookup_cons_eq_ite, ih]
    by_cases same : entry.1 = key <;> simp [same]

private theorem edgeName_eq :
    tree.edgeName unnamed key.1 key.2 = (tree.givenNames key).head?.getD (unnamed ++ s!"_{key.1}_{key.2}") := by
  rw [← lookup_edgeNames, edgeName]
  cases tree.edgeNames.lookup (key.1, key.2) <;> rfl

private theorem lookup_put (entry : EdgeKey × Wording) (names : List (EdgeKey × Wording)) :
    (edgeNameMap.put entry names).lookup key = if entry.1 = key then some entry.2 else names.lookup key := by
  induction names with
  | nil => rw [edgeNameMap.put, lookup_cons_eq_ite]
  | cons other rest ih =>
    rw [edgeNameMap.put, lookup_cons_eq_ite]
    split
    next replaced =>
      rw [lookup_cons_eq_ite, replaced]
      by_cases same : entry.1 = key <;> simp [same]
    next kept =>
      rw [lookup_cons_eq_ite, ih]
      by_cases same : other.1 = key
      · have apart : entry.1 ≠ key := same ▸ Ne.symm kept
        rw [if_pos same, if_neg apart, if_pos same]
      · rw [if_neg same, if_neg same]

/-- A later name takes the place of those before it. -/
theorem lookup_edgeNameMap : tree.edgeNameMap.lookup key = (tree.givenNames key).getLast? := by
  unfold edgeNameMap givenNames
  induction tree.edgeNames using List.reverseRecOn with
  | nil => rfl
  | append_singleton entries entry ih =>
    rw [List.foldl_append, List.foldl_cons, List.foldl_nil, lookup_put, ih, List.filter_append, List.map_append]
    by_cases same : entry.1 = key <;> simp [same]

private theorem namesAgree_iff :
    tree.NamesAgree unnamed key ↔ (tree.givenNames key).head? = (tree.givenNames key).getLast? := by
  rw [NamesAgree, edgeName_eq, lookup_edgeNameMap]
  cases tree.givenNames key with
  | nil => simp
  | cons name rest => simp [List.getLast?_cons]

private theorem edges_toGraph (idOf : Int → α) : (tree.toGraph idOf).edges =
    tree.links.map fun link => ⟨idOf link.1, idOf link.2, none, none, (tree.givenNames link).getLast?⟩ := by
  simp only [toGraph, lookup_edgeNameMap]

end Lookup

section NamesOnce

variable {tree : LinearTree β}

private theorem NamesOnce.namesAgree (once : tree.NamesOnce) (unnamed : Wording) (key : EdgeKey) :
    tree.NamesAgree unnamed key := by
  rw [namesAgree_iff, ← lookup_edgeNames, ← lookup_edgeNameMap, edgeNameMap_eq_self once]

private theorem namesOnce_of_build [DecidableEq α] {order : List (Node α β)} {edges : List (Edge α)}
    (built : build order edges = .ok tree) : tree.NamesOnce := by
  rw [NamesOnce, (build_eq_ok built).2]
  exact Build.nodup_edgeNames _

private theorem NamesOnce.nodup_shiftNames (once : tree.NamesOnce) (offset : Int) :
    ((shiftNames offset tree.edgeNames).map (·.1)).Nodup := by
  have keys : (shiftNames offset tree.edgeNames).map (·.1) = (tree.edgeNames.map (·.1)).map (moved offset) := by
    rw [shiftNames, List.map_map, List.map_map]
    rfl
  rw [keys]
  exact once.map (moved_injective offset)

private theorem Combines.namesOnce {leftName rightName : Wording} {left right : LinearTree β}
    (combines : Combines leftName left rightName right tree) (leftRooted : left.Rooted) (rightRooted : right.Rooted)
    (leftOnce : left.NamesOnce) (rightOnce : right.NamesOnce) : tree.NamesOnce := by
  have full := leftRooted.length_pos
  have inLeft {key : EdgeKey} (member : key ∈ (shiftNames (1 : Nat) left.edgeNames).map (·.1)) :=
    leftRooted.wellFormed.inside_of_mem_shiftNames member
  have inRight {key : EdgeKey} (member : key ∈ (shiftNames (1 + left.length : Nat) right.edgeNames).map (·.1)) :=
    rightRooted.wellFormed.inside_of_mem_shiftNames member
  have below (child : Int) : (0, child) ∉ (shiftNames (1 : Nat) left.edgeNames).map (·.1) ++
      (shiftNames (1 + left.length : Nat) right.edgeNames).map (·.1) := by
    rw [List.mem_append, not_or]
    refine ⟨fun member => ?_, fun member => ?_⟩
    · exact absurd (inLeft member).1 (by dsimp only; omega)
    · exact absurd (inRight member).1 (by dsimp only; omega)
  have apart : ((0, 1) : EdgeKey) ≠ (0, ((1 + left.length : Nat) : Int)) := by
    rw [Ne, Prod.mk.injEq]
    omega
  rw [NamesOnce, combines.names, List.map_cons, List.map_cons, List.map_append]
  refine List.nodup_cons.mpr ⟨List.not_mem_cons_of_ne_of_not_mem apart (below 1), List.nodup_cons.mpr ⟨below _, ?_⟩⟩
  refine List.nodup_append.mpr ⟨leftOnce.nodup_shiftNames _, rightOnce.nodup_shiftNames _, ?_⟩
  rintro key leftMember _ rightMember rfl
  have before := (inLeft leftMember).2
  have behind := (inRight rightMember).1
  omega

private theorem NamesOnce.combineOr {leftName rightName : Wording} {left right : LinearTree β}
    (leftValid : left.isValid = true)
    (rightValid : right.isValid = true) (leftOnce : left.NamesOnce) (rightOnce : right.NamesOnce)
    (made : combineOr leftName left rightName right = some tree) : tree.NamesOnce := by
  have full : left.isEmpty = false ∧ right.isEmpty = false := by
    rw [← Bool.or_eq_false_iff, ← Bool.not_eq_true]
    intro empty
    rw [LinearTree.combineOr, if_pos empty] at made
    cases made
  obtain ⟨whole, found, combines⟩ := combines_combineOr leftName rightName full.1 full.2
  obtain rfl := Option.some.inj (found.symm.trans made)
  exact combines.namesOnce ⟨leftValid, full.1⟩ ⟨rightValid, full.2⟩ leftOnce rightOnce

end NamesOnce

/-- Of the names given to an edge, who asks for its name gets the first, and the mapping and the graph have the last.
They are the same for every edge of a tree that names no edge twice, such as trees made by building and valid trees of
that kind put together. -/
theorem edgeName_first_edgeNameMap_last [DecidableEq α] (tree : LinearTree β) (unnamed : Wording) (idOf : Int → α) :
    (∀ key : EdgeKey,
      tree.edgeName unnamed key.1 key.2 = (tree.givenNames key).head?.getD (unnamed ++ s!"_{key.1}_{key.2}") ∧
        tree.edgeNameMap.lookup key = (tree.givenNames key).getLast? ∧
        (tree.NamesAgree unnamed key ↔ (tree.givenNames key).head? = (tree.givenNames key).getLast?)) ∧
    (tree.toGraph idOf).edges = tree.links.map (fun link =>
      ⟨idOf link.1, idOf link.2, none, none, (tree.givenNames link).getLast?⟩) ∧
    (tree.NamesOnce → ∀ key, tree.NamesAgree unnamed key) ∧
    (∀ (order : List (Node α β)) (edges : List (Edge α)), build order edges = .ok tree → tree.NamesOnce) ∧
    ∀ (leftName rightName : Wording) (left right : LinearTree β), left.isValid = true → right.isValid = true →
      left.NamesOnce → right.NamesOnce → combineOr leftName left rightName right = some tree → tree.NamesOnce := by
  refine ⟨fun key => ⟨?_, ?_, ?_⟩, ?_, ?_, ?_, ?_⟩
  · exact tree.edgeName_eq unnamed key
  · exact tree.lookup_edgeNameMap key
  · exact tree.namesAgree_iff unnamed key
  · exact tree.edges_toGraph idOf
  · exact fun once => once.namesAgree unnamed
  · exact fun _ _ built => namesOnce_of_build built
  · exact fun _ _ _ _ leftValid rightValid leftOnce rightOnce => leftOnce.combineOr leftValid rightValid rightOnce

theorem edgeName_first_edgeNameMap_last_namedChild :
    build [⟨0, .box ⟨"", [], [], 5⟩⟩, ⟨1, .box ⟨"", [], [], 6⟩⟩] [⟨0, 1, none, none, some "below"⟩] = .ok namedChild ∧
      ∃ tree, combineOr "a" namedChild "b" namedChild = some tree ∧ tree.NamesOnce ∧
        tree.NamesAgree unnamedEdge (3, 4) ∧ tree.edgeName unnamedEdge 3 4 = "below" ∧
        tree.edgeName unnamedEdge 4 3 = "unnamed_edge_4_3" := by
  have built : build [⟨0, .box ⟨"", [], [], 5⟩⟩, ⟨1, .box ⟨"", [], [], 6⟩⟩] [⟨0, 1, none, none, some "below"⟩] =
      .ok namedChild := by cbv
  have valid : namedChild.isValid = true := by cbv
  obtain ⟨_, _, _, once, _⟩ := edgeName_first_edgeNameMap_last namedChild unnamedEdge Int.toNat
  have childOnce := once _ _ built
  refine ⟨built, _, rfl, ?_⟩
  obtain ⟨names, _, agree, _, combined⟩ := edgeName_first_edgeNameMap_last
    ⟨[.or 1 3, .box 5 [2], .box 6 [], .box 5 [4], .box 6 []],
      [((0, 1), "a"), ((0, 3), "b"), ((1, 2), "below"), ((3, 4), "below")]⟩ unnamedEdge Int.toNat
  have wholeOnce := combined "a" "b" namedChild namedChild valid valid childOnce childOnce rfl
  exact ⟨wholeOnce, agree wholeOnce (3, 4), (names (3, 4)).1, (names (4, 3)).1⟩

/-- A box above another, with two names for the edge between them. -/
def twiceNamed : LinearTree Unit := ⟨[.box () [1], .box () []], [((0, 1), "first"), ((0, 1), "last")]⟩

theorem twiceNamed_disagrees :
    twiceNamed.isValid = true ∧ (0, 1) ∈ twiceNamed.links ∧ twiceNamed.edgeName unnamedEdge 0 1 = "first" ∧
      twiceNamed.edgeNameMap.lookup (0, 1) = some "last" ∧
      (twiceNamed.toGraph (positionId "tree")).edges.map (·.name) = [some (.whole "last")] := by
  refine ⟨by cbv, by decide, rfl, rfl, rfl⟩

end LinearTree
end BoxTree
