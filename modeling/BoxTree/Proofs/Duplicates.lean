import BoxTree.Latest
import Mathlib.Data.List.Nodup

/-! Lists without their repeated items: each item at its first place, or the last item of each key. -/

namespace BoxTree

variable {α β γ κ : Type}

section First

variable [BEq α] [LawfulBEq α]

private theorem filter_eraseDups (keep : α → Bool) (items : List α) :
    (items.filter keep).eraseDups = items.eraseDups.filter keep := by
  cases items with
  | nil => rfl
  | cons first rest =>
    have ih := filter_eraseDups keep (rest.filter (!· == first))
    rw [List.filter_filter] at ih
    cases kept : keep first with
    | true =>
      rw [List.filter_cons_of_pos kept, List.eraseDups_cons, List.eraseDups_cons, List.filter_cons_of_pos kept, ← ih,
        List.filter_filter]
      simp only [Bool.and_comm]
    | false =>
      have dropped : ¬ keep first = true := by simp [kept]
      rw [List.filter_cons_of_neg dropped, List.eraseDups_cons, List.filter_cons_of_neg dropped, ← ih]
      congr 1
      apply List.filter_congr
      intro item _
      by_cases same : item = first <;> simp [same, kept]
termination_by items.length
decreasing_by exact Nat.lt_succ_of_le (List.length_filter_le _ _)

theorem eraseDups_cons_eq (first : α) (rest : List α) :
    (first :: rest).eraseDups = first :: rest.eraseDups.filter (!· == first) := by
  rw [List.eraseDups_cons, filter_eraseDups]

theorem nodup_eraseDups (items : List α) : items.eraseDups.Nodup := by
  induction items with
  | nil => exact .nil
  | cons first rest ih => exact eraseDups_cons_eq first rest ▸ List.nodup_cons.mpr ⟨by simp, ih.filter _⟩

theorem eraseDups_eq_self {items : List α} (unique : items.Nodup) : items.eraseDups = items := by
  induction items with
  | nil => rfl
  | cons first rest ih =>
    obtain ⟨absent, unique⟩ := List.nodup_cons.mp unique
    have others : ∀ item ∈ rest, (!item == first) = true := by
      intro item member
      simpa using ne_of_mem_of_not_mem member absent
    rw [eraseDups_cons_eq, ih unique, List.filter_eq_self.mpr others]

theorem eraseDups_sublist (items : List α) : items.eraseDups.Sublist items := by
  induction items with
  | nil => exact .slnil
  | cons first rest ih => exact eraseDups_cons_eq first rest ▸ (List.filter_sublist.trans ih).cons_cons first

/-- A map that tells the members of a list apart. -/
theorem eraseDups_map_of_injOn [BEq β] [LawfulBEq β] {f : α → β} {items : List α}
    (injective : ∀ left ∈ items, ∀ right ∈ items, f left = f right → left = right) :
    (items.map f).eraseDups = items.eraseDups.map f := by
  induction items with
  | nil => rfl
  | cons first rest ih =>
    have apart : ∀ item ∈ rest.eraseDups, (!f item == f first) = (!item == first) := by
      intro item member
      have later := List.mem_cons_of_mem first (List.mem_eraseDups.mp member)
      rw [Bool.not_inj_iff, Bool.eq_iff_iff, beq_iff_eq, beq_iff_eq]
      exact ⟨injective item later first List.mem_cons_self, congrArg f⟩
    have others := ih fun left leftMember right rightMember =>
      injective left (List.mem_cons_of_mem first leftMember) right (List.mem_cons_of_mem first rightMember)
    rw [List.map_cons, eraseDups_cons_eq, eraseDups_cons_eq, List.map_cons, others, List.filter_map]
    congr 2
    exact List.filter_congr apart

end First

section Last

variable [DecidableEq κ] (key : γ → κ)

theorem latest_subset (items : List γ) : latest key items ⊆ items := by
  induction items with
  | nil => exact List.Subset.refl []
  | cons item rest ih =>
    unfold latest
    split
    · exact List.subset_cons_of_subset _ ih
    · exact List.cons_subset_cons _ ih

theorem nodup_latest (items : List γ) : ((latest key items).map key).Nodup := by
  induction items with
  | nil => exact .nil
  | cons item rest ih =>
    unfold latest
    split
    · exact ih
    next absent => exact List.nodup_cons.mpr ⟨fun member => absent (List.map_subset _ (latest_subset key rest) member), ih⟩

theorem latest_eq_self_iff {items : List γ} : latest key items = items ↔ (items.map key).Nodup := by
  constructor
  · intro same
    exact same ▸ nodup_latest key items
  · intro unique
    induction items with
    | nil => rfl
    | cons item rest ih =>
      obtain ⟨absent, unique⟩ := List.nodup_cons.mp unique
      rw [latest, if_neg absent, ih unique]

theorem latest_map (f : β → γ) (items : List β) :
    latest key (items.map f) = (latest (fun item => key (f item)) items).map f := by
  induction items with
  | nil => rfl
  | cons item rest ih =>
    rw [List.map_cons, latest, latest, ih, List.map_map, apply_ite (List.map f)]
    rfl

theorem latest_injective {δ : Type} [DecidableEq δ] {f : κ → δ} (injective : Function.Injective f) (items : List γ) :
    latest (fun item => f (key item)) items = latest key items := by
  induction items with
  | nil => rfl
  | cons item rest ih =>
    have member : f (key item) ∈ rest.map (fun item => f (key item)) ↔ key item ∈ rest.map key := by
      rw [← List.mem_map_of_injective injective, List.map_map]
      rfl
    rw [latest, latest, ih]
    exact if_congr member rfl rfl

end Last
end BoxTree
