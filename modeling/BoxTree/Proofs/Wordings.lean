import BoxTree.Text.Wording
import Mathlib.Data.List.Basic

/-! Texts are told apart by their letters, halves included. -/

namespace BoxTree

private theorem map_char_filterMap {letters : List Letter} (noHalf : letters.any Letter.isHalf = false) :
    (letters.filterMap Letter.char?).map .char = letters := by
  induction letters with
  | nil => rfl
  | cons letter rest ih =>
    rw [List.any_cons, Bool.or_eq_false_iff] at noHalf
    cases letter with
    | char c =>
      have first : Letter.char? (.char c) = some c := rfl
      rw [List.filterMap_cons_some first, List.map_cons, ih noHalf.2]
    | half => cases noHalf.1

theorem Letter.ofCode_toNat (c : Char) : Letter.ofCode c.toNat = .char c := by
  have valid : c.toNat < 0xd800 ∨ 0xdfff < c.toNat ∧ c.toNat < 0x110000 := c.valid
  have outside : ¬ (0xd800 ≤ c.toNat ∧ c.toNat < 0xe000) := by omega
  rw [ofCode, dif_neg outside, Char.ofNat_toNat]

namespace Wording

@[simp] theorem letters_whole (content : String) : (whole content).letters = content.toList.map .char := rfl

@[simp] theorem letters_ofLetters (letters : List Letter) : (ofLetters letters).letters = letters := by
  unfold ofLetters
  split
  · rfl
  next noHalf =>
    rw [letters_whole, String.toList_ofList]
    exact map_char_filterMap (Bool.eq_false_iff.mpr noHalf)

theorem char_injective : Function.Injective Letter.char := fun _ _ => Letter.char.inj

private theorem any_isHalf_map_char (letters : List Char) : (letters.map Letter.char).any Letter.isHalf = false := by
  simp [Letter.isHalf]

theorem letters_injective : Function.Injective letters := by
  intro left right same
  cases left with
  | whole left =>
    cases right with
    | whole right => exact congrArg whole (String.toList_injective (char_injective.list_map same))
    | broken right =>
      have noHalf := any_isHalf_map_char left.toList
      rw [show left.toList.map .char = right.letters from same, right.holdsHalf] at noHalf
      cases noHalf
  | broken left =>
    cases right with
    | whole right =>
      have noHalf := any_isHalf_map_char right.toList
      rw [← show left.letters = right.toList.map .char from same, left.holdsHalf] at noHalf
      cases noHalf
    | broken right =>
      obtain ⟨leftLetters, _⟩ := left
      obtain ⟨rightLetters, _⟩ := right
      cases same
      rfl

@[simp] theorem ofLetters_letters (content : Wording) : ofLetters content.letters = content :=
  letters_injective (letters_ofLetters _)

theorem ofLetters_map_char (letters : List Char) : ofLetters (letters.map .char) = whole (String.ofList letters) := by
  apply letters_injective
  rw [letters_ofLetters, letters_whole, String.toList_ofList]

@[simp] theorem letters_append (first second : Wording) : (first ++ second).letters = first.letters ++ second.letters := by
  cases first with
  | broken => exact letters_ofLetters _
  | whole first =>
    cases second with
    | broken => exact letters_ofLetters _
    | whole second =>
      change (first ++ second).toList.map Letter.char = _
      rw [String.toList_append, List.map_append]
      rfl

theorem append_left_cancel {first left right : Wording} (same : first ++ left = first ++ right) : left = right := by
  have letters := congrArg letters same
  rw [letters_append, letters_append] at letters
  exact letters_injective (List.append_cancel_left letters)

theorem standIns_eq (content : Wording) : content.standIns = content.letters.map Letter.standIn := by
  cases content with
  | whole content =>
    rw [letters_whole, List.map_map]
    exact (List.map_id _).symm
  | broken => rfl

@[simp] theorem isWhole_whole (content : String) : (whole content).isWhole = true := rfl

theorem isWhole_iff {content : Wording} : content.isWhole = true ↔ content.letters.any Letter.isHalf = false := by
  cases content with
  | whole content => exact iff_of_true rfl (any_isHalf_map_char content.toList)
  | broken content => simp [isWhole, whole?, letters, content.holdsHalf]

theorem isWhole_append {first second : Wording} :
    (first ++ second).isWhole = true ↔ first.isWhole = true ∧ second.isWhole = true := by
  rw [isWhole_iff, isWhole_iff, isWhole_iff, letters_append, List.any_append, Bool.or_eq_false_iff]

theorem exists_whole {content : Wording} (isWhole : content.isWhole = true) : ∃ text, content = whole text := by
  cases content with
  | whole text => exact ⟨text, rfl⟩
  | broken => cases isWhole

end Wording
end BoxTree
