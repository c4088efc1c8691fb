import BoxTree.Binding.Propagate
import BoxTree.Proofs.Wordings
import Mathlib.Data.List.Nodup
import Mathlib.Data.List.Perm.Subperm

/-! How names are picked: a numbered name tells its base and its number, the number picked is the first one
that is free, and a name is taken if something that can be seen already has it. -/

namespace BoxTree.Binding

theorem letters_numbered (base : Wording) (number : Nat) :
    (numbered base number).letters = base.letters ++ .char '_' :: (Nat.toDigits 10 number).map .char := by
  simp [numbered, ToString.toString]

theorem underscore_not_mem_digits (number : Nat) : Letter.char '_' ∉ (Nat.toDigits 10 number).map .char := by
  rw [List.mem_map_of_injective Wording.char_injective]
  exact Nat.underscore_not_in_toDigits

theorem numbered_inj {left right : Wording} {first second : Nat} :
    numbered left first = numbered right second ↔ left = right ∧ first = second := by
  refine ⟨?_, fun ⟨base, number⟩ => by rw [base, number]⟩
  intro same
  have letters := congrArg Wording.letters same
  rw [letters_numbered, letters_numbered] at letters
  -- No digit is an underscore, so in both names the last underscore stands before the number.
  have alike {front : List Letter} {before after : Nat}
      (split : .char '_' :: (Nat.toDigits 10 before).map .char =
        front ++ .char '_' :: (Nat.toDigits 10 after).map .char) : front = [] := by
    cases front with
    | nil => rfl
    | cons letter rest =>
      have digits := (List.cons.inj split).2
      have inside : Letter.char '_' ∈ (Nat.toDigits 10 before).map Letter.char :=
        digits ▸ List.mem_append_right _ List.mem_cons_self
      exact False.elim (underscore_not_mem_digits _ inside)
  have bases : left.letters = right.letters := by
    rcases List.append_eq_append_iff.mp letters with ⟨front, base, split⟩ | ⟨front, base, split⟩
    · rw [base, alike split, List.append_nil]
    · rw [base, alike split, List.append_nil]
  rw [bases, List.append_cancel_left_eq] at letters
  have digits := Wording.char_injective.list_map (List.cons.inj letters).2
  have numbers := congrArg (Nat.ofDigitChars 10 · 0) digits
  rw [Nat.ofDigitChars_ten_toDigits, Nat.ofDigitChars_ten_toDigits] at numbers
  exact ⟨Wording.letters_injective bases, numbers⟩

private theorem exists_free (base : Wording) (taken : List Wording) :
    ∃ number ∈ List.range (taken.length + 1), numbered base number ∉ taken := by
  by_contra every
  have inside : (List.range (taken.length + 1)).map (numbered base) ⊆ taken := by
    intro name member
    obtain ⟨number, listed, rfl⟩ := List.mem_map.mp member
    by_contra free
    exact every ⟨number, listed, free⟩
  have apart : ((List.range (taken.length + 1)).map (numbered base)).Nodup :=
    List.nodup_range.map fun _ _ same => (numbered_inj.mp same).2
  have short := (apart.subperm inside).length_le
  rw [List.length_map, List.length_range] at short
  omega

private theorem exists_pickName (base : Wording) (taken : List Wording) :
    ∃ number, pickName base taken = numbered base number ∧ numbered base number ∉ taken ∧
      ∀ smaller < number, numbered base smaller ∈ taken := by
  obtain ⟨free, listed, fresh⟩ := exists_free base taken
  obtain ⟨number, found⟩ : ∃ number,
      (List.range (taken.length + 1)).find? (fun number => numbered base number ∉ taken) = some number :=
    Option.isSome_iff_exists.mp (List.find?_isSome.mpr ⟨free, listed, decide_eq_true fresh⟩)
  refine ⟨number, by rw [pickName, found]; rfl, ?_⟩
  simpa using And.intro (List.find?_some found) (List.find?_range_eq_some.mp found).2.2

variable {α : Type} [DecidableEq α]

theorem mem_seenFrom {region : List α} {sights : List (Sight α)} {name : Wording} :
    name ∈ seenFrom region sights ↔ ∃ sight ∈ sights, sight.name = name ∧ ∃ node ∈ region, node ∈ sight.nodes := by
  simp only [seenFrom, List.mem_map, List.mem_filter, List.any_eq_true, decide_eq_true_iff, and_assoc]
  exact exists_congr fun sight => and_congr_right fun _ => And.comm

section Assign

variable (regionOf : α → List α) (width : Int)

/-- A name that a variable cannot get: some node of its region sees it already, or it went to a variable
before it whose region meets its own. -/
def Taken (sights : List (Sight α)) (all : List (Variable α)) (names : List Wording) (key : Nat) (fresh : Variable α)
    (name : Wording) : Prop :=
  name ∈ seenFrom (regionOf fresh.introducer) sights ∨
    ∃ earlier < key, ∃ other, all[earlier]? = some other ∧ other.declared = none ∧ names[earlier]? = some name ∧
      ∃ node ∈ regionOf fresh.introducer, node ∈ regionOf other.introducer

/-- The name a variable gets. -/
structure Picked (sights : List (Sight α)) (all : List (Variable α)) (names : List Wording) (key : Nat)
    (fresh : Variable α) : Prop where
  declared : ∀ name, fresh.declared = some name → names[key]? = some name
  first : fresh.declared = none → ∃ number,
    names[key]? = some (numbered (stem fresh.objectType fresh.quantifiesSet width) number) ∧
    ¬ Taken regionOf sights all names key fresh (numbered (stem fresh.objectType fresh.quantifiesSet width) number) ∧
    ∀ smaller < number,
      Taken regionOf sights all names key fresh (numbered (stem fresh.objectType fresh.quantifiesSet width) smaller)

variable {regionOf width}

theorem length_assignNames {sights : List (Sight α)} {all : List (Variable α)} :
    (assignNames regionOf width sights all).length = all.length := by
  induction all generalizing sights with
  | nil => rfl
  | cons fresh rest ih =>
    unfold assignNames
    split <;> exact congrArg (· + 1) ih

private theorem taken_cons_declared {sights : List (Sight α)} {all : List (Variable α)} {names : List Wording}
    {key : Nat}
    {first fresh : Variable α} {head name : Wording} (stands : first.declared ≠ none) :
    Taken regionOf sights (first :: all) (head :: names) (key + 1) fresh name ↔
      Taken regionOf sights all names key fresh name := by
  refine or_congr_right ⟨?_, ?_⟩
  · intro given
    obtain ⟨earlier, before, other, found, undeclared, rest⟩ := given
    cases earlier with
    | zero => exact False.elim (stands (Option.some.inj found ▸ undeclared))
    | succ earlier => exact ⟨earlier, Nat.lt_of_succ_lt_succ before, other, found, undeclared, rest⟩
  · intro given
    obtain ⟨earlier, before, rest⟩ := given
    exact ⟨earlier + 1, Nat.succ_lt_succ before, rest⟩

/-- It is the same whether a name is seen already or went to the first of all variables. -/
theorem taken_cons_undeclared {sights : List (Sight α)} {all : List (Variable α)} {names : List Wording} {key : Nat}
    {first fresh : Variable α} {head name : Wording} (undeclared : first.declared = none) :
    Taken regionOf sights (first :: all) (head :: names) (key + 1) fresh name ↔
      Taken regionOf (sights ++ [⟨head, regionOf first.introducer⟩]) all names key fresh name := by
  unfold Taken
  constructor
  · intro given
    rcases given with seen | ⟨earlier, before, other, found, fresh, named, meets⟩
    · obtain ⟨sight, listed, rest⟩ := mem_seenFrom.mp seen
      exact .inl (mem_seenFrom.mpr ⟨sight, List.mem_append_left _ listed, rest⟩)
    · cases earlier with
      | zero =>
        obtain rfl := Option.some.inj found
        obtain rfl := Option.some.inj named
        exact .inl (mem_seenFrom.mpr ⟨_, List.mem_append_right _ List.mem_cons_self, rfl, meets⟩)
      | succ earlier => exact .inr ⟨earlier, Nat.lt_of_succ_lt_succ before, other, found, fresh, named, meets⟩
  · intro given
    rcases given with seen | ⟨earlier, before, rest⟩
    · obtain ⟨sight, listed, named, meets⟩ := mem_seenFrom.mp seen
      rcases List.mem_append.mp listed with old | new
      · exact .inl (mem_seenFrom.mpr ⟨sight, old, named, meets⟩)
      · obtain rfl := List.mem_singleton.mp new
        exact .inr ⟨0, Nat.succ_pos key, first, rfl, undeclared, congrArg some named, meets⟩
    · exact .inr ⟨earlier + 1, Nat.succ_lt_succ before, rest⟩

theorem picked_assignNames {sights : List (Sight α)} {all : List (Variable α)} {key : Nat} {fresh : Variable α}
    (found : all[key]? = some fresh) :
    Picked regionOf width sights all (assignNames regionOf width sights all) key fresh := by
  induction all generalizing sights key with
  | nil => cases found
  | cons first rest ih =>
    cases key with
    | zero =>
      obtain rfl := Option.some.inj found
      unfold assignNames
      split
      next name declared =>
        exact ⟨fun other same => declared.symm.trans same, fun undeclared => nomatch declared.symm.trans undeclared⟩
      next undeclared =>
        refine ⟨fun name declared => (nomatch undeclared.symm.trans declared), fun _ => ?_⟩
        obtain ⟨number, picked, free, taken⟩ := exists_pickName (stem first.objectType first.quantifiesSet width)
          (seenFrom (regionOf first.introducer) sights)
        refine ⟨number, congrArg some picked, ?_, fun smaller less => .inl (taken smaller less)⟩
        rintro (seen | ⟨earlier, before, _⟩)
        · exact free seen
        · cases before
    | succ key =>
      unfold assignNames
      split
      next name declared =>
        obtain ⟨stands, picked⟩ : Picked regionOf width sights rest _ key fresh := ih found
        refine ⟨stands, ?_⟩
        simp only [taken_cons_declared (declared ▸ Option.some_ne_none name : first.declared ≠ none)]
        exact picked
      next undeclared =>
        obtain ⟨stands, picked⟩ := ih found
        refine ⟨stands, ?_⟩
        simp only [taken_cons_undeclared undeclared]
        exact picked

end Assign

end BoxTree.Binding
