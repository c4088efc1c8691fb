import BoxTree.Proofs.LinkFacts
import BoxTree.Tree.Basic
import Mathlib.Data.List.Nodup

/-! Names of edges as mappings from edges to names: each edge once. Where no edge is named twice, the list of
names already is the mapping. -/

namespace BoxTree

section Entries

variable {κ γ : Type} [BEq κ] [LawfulBEq κ]

private theorem lookup_of_mem {entries : List (κ × γ)} (once : (entries.map (·.1)).Nodup) {entry : κ × γ}
    (member : entry ∈ entries) : entries.lookup entry.1 = some entry.2 := by
  obtain ⟨before, after, rfl⟩ := List.append_of_mem member
  rw [List.map_append, List.nodup_append] at once
  apply List.lookup_eq_some_iff.mpr
  refine ⟨before, after, rfl, ?_⟩
  intro other earlier
  have differ := once.2.2 other.1 (List.mem_map_of_mem earlier) entry.1 List.mem_cons_self
  exact bne_iff_ne.mpr differ.symm

theorem mem_of_lookup {entries : List (κ × γ)} {key : κ} {value : γ} (found : entries.lookup key = some value) :
    (key, value) ∈ entries := by
  obtain ⟨before, after, rfl, _⟩ := List.lookup_eq_some_iff.mp found
  exact List.mem_append_right _ List.mem_cons_self

theorem perm_lookups {keys : List κ} (once : keys.Nodup) {entries : List (κ × γ)}
    (unique : (entries.map (·.1)).Nodup) (within : ∀ entry ∈ entries, entry.1 ∈ keys) :
    (keys.filterMap fun key => (entries.lookup key).map (key, ·)).Perm entries := by
  have found : (keys.filterMap fun key => (entries.lookup key).map (key, ·)).Nodup := by
    apply once.filterMap
    intro left right entry leftFound rightFound
    obtain ⟨_, _, rfl⟩ := Option.map_eq_some_iff.mp leftFound
    obtain ⟨_, _, same⟩ := Option.map_eq_some_iff.mp rightFound
    exact (congrArg Prod.fst same).symm
  apply (List.perm_ext_iff_of_nodup found (unique.of_map _)).mpr
  intro entry
  simp only [List.mem_filterMap, Option.map_eq_some_iff]
  constructor
  · rintro ⟨key, _, value, looked, rfl⟩
    exact mem_of_lookup looked
  · intro member
    exact ⟨entry.1, within entry member, entry.2, lookup_of_mem unique member, rfl⟩

theorem eraseDups_lookups {entries : List (κ × γ)} (unique : (entries.map (·.1)).Nodup) :
    ((entries.map (·.1)).eraseDups.filterMap fun key => (entries.lookup key).map (key, ·)) = entries := by
  rw [eraseDups_eq_self unique, List.filterMap_map]
  have same : ∀ entry ∈ entries, ((fun key => (entries.lookup key).map (key, ·)) ∘ (·.1)) entry = some entry := by
    intro entry member
    rw [Function.comp_apply, lookup_of_mem unique member]
    rfl
  rw [List.filterMap_congr same, List.filterMap_some]

end Entries

namespace LinearTree

variable {β : Type} {tree : LinearTree β} {entry : EdgeKey × Wording} {names : List (EdgeKey × Wording)}

private theorem put_eq_append (absent : entry.1 ∉ names.map (·.1)) :
    edgeNameMap.put entry names = names ++ [entry] := by
  induction names with
  | nil => rfl
  | cons other rest ih =>
    rw [List.map_cons, List.mem_cons, not_or] at absent
    rw [edgeNameMap.put, if_neg (Ne.symm absent.1), ih absent.2]
    rfl

private theorem map_fst_put (present : entry.1 ∈ names.map (·.1)) :
    (edgeNameMap.put entry names).map (·.1) = names.map (·.1) := by
  induction names with
  | nil => cases present
  | cons other rest ih =>
    rw [edgeNameMap.put]
    split
    next same => rw [List.map_cons, List.map_cons, same]
    next differ =>
      have later := (List.mem_cons.mp present).resolve_left (Ne.symm differ)
      rw [List.map_cons, List.map_cons, ih later]

theorem nodup_edgeNameMap (tree : LinearTree β) : (tree.edgeNameMap.map (·.1)).Nodup := by
  have kept (entries names : List (EdgeKey × Wording)) (once : (names.map (·.1)).Nodup) :
      ((entries.foldl (fun names entry => edgeNameMap.put entry names) names).map (·.1)).Nodup := by
    induction entries generalizing names with
    | nil => exact once
    | cons entry rest ih =>
      apply ih
      by_cases present : entry.1 ∈ names.map (·.1)
      · rwa [map_fst_put present]
      · dsimp only
        rw [put_eq_append present, List.map_append]
        refine List.nodup_append.mpr ⟨once, List.nodup_singleton _, ?_⟩
        intro key old other new same
        rw [List.map_singleton, List.mem_singleton] at new
        exact present (new ▸ same ▸ old)
  exact kept tree.edgeNames [] .nil

theorem mem_edgeNames_of_mem_map (member : entry.1 ∈ tree.edgeNameMap.map (·.1)) :
    entry.1 ∈ tree.edgeNames.map (·.1) := by
  have kept (entries names : List (EdgeKey × Wording)) (key : EdgeKey)
      (member : key ∈ (entries.foldl (fun names entry => edgeNameMap.put entry names) names).map (·.1)) :
      key ∈ names.map (·.1) ++ entries.map (·.1) := by
    induction entries generalizing names with
    | nil => exact List.mem_append_left _ member
    | cons entry rest ih =>
      have later := ih _ member
      by_cases present : entry.1 ∈ names.map (·.1)
      · rw [map_fst_put present] at later
        exact (List.mem_append.mp later).elim (List.mem_append_left _)
          fun inRest => List.mem_append_right _ (List.mem_cons_of_mem _ inRest)
      · dsimp only at later
        rwa [put_eq_append present, List.map_append, List.append_assoc] at later
  exact kept tree.edgeNames [] entry.1 member

theorem edgeNameMap_eq_self (once : (tree.edgeNames.map (·.1)).Nodup) : tree.edgeNameMap = tree.edgeNames := by
  have kept (entries names : List (EdgeKey × Wording)) (once : ((names ++ entries).map (·.1)).Nodup) :
      entries.foldl (fun names entry => edgeNameMap.put entry names) names = names ++ entries := by
    induction entries generalizing names with
    | nil => exact (List.append_nil names).symm
    | cons entry rest ih =>
      have absent : entry.1 ∉ names.map (·.1) := by
        rw [List.map_append, List.nodup_append] at once
        exact fun present => once.2.2 _ present _ List.mem_cons_self rfl
      rw [List.foldl_cons, put_eq_append absent, ih, List.append_assoc, List.singleton_append]
      rwa [List.append_assoc, List.singleton_append]
  exact kept tree.edgeNames [] once

end LinearTree
end BoxTree
