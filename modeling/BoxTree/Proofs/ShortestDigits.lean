import BoxTree.Proofs.NearestDouble

/-! The shortest digits of a double lie in its interval: with seventeen digits there is always a decimal near enough. -/

namespace BoxTree

variable {d : Double} {place : Int}

namespace Double

private theorem ten_pos : (0 : ℚ) < 10 := by norm_num

section Intervals

private theorem quarter_eq (d : Double) : (d.interval.top : ℚ) / d.interval.bottom = d.unit / 4 := by
  have four : (4 : ℚ) = 2 ^ (2 : Int) := by norm_num
  rw [unit, four, ← zpow_sub₀ two_ne_zero, interval]
  dsimp only
  split
  next negative =>
    rw [Nat.pow_eq, Nat.cast_one, Nat.cast_pow, Nat.cast_ofNat, one_div, two_zpow_of_nonpos negative.le]
  next whole =>
    rw [Nat.pow_eq, Nat.cast_pow, Nat.cast_ofNat, Nat.cast_one, div_one, two_zpow_of_nonneg (not_lt.mp whole)]

private theorem bottom_pos (d : Double) : (0 : ℚ) < d.interval.bottom := by
  rw [interval]
  dsimp only
  split
  · exact Nat.cast_pos.mpr (Nat.two_pow_pos _)
  · norm_num

/-- A power of ten as a fraction. -/
theorem tens_eq (place : Int) : ((if place < 0 then 1 else Nat.pow 10 place.natAbs : Nat) : ℚ) =
    10 ^ place * (if place < 0 then Nat.pow 10 place.natAbs else 1 : Nat) := by
  have power (count : Nat) : ((Nat.pow 10 count : Nat) : ℚ) = 10 ^ (count : Int) := by simp
  split
  next negative =>
    rw [power, ← zpow_add₀ ten_pos.ne', show place + place.natAbs = 0 by omega]
    simp
  next whole =>
    rw [power, show (place.natAbs : Int) = place by omega]
    simp

private theorem tens_pos (place : Int) : (0 : ℚ) < (if place < 0 then Nat.pow 10 place.natAbs else 1 : Nat) := by
  split
  · exact Nat.cast_pos.mpr (Nat.pow_pos (by decide))
  · norm_num

private theorem holds_iff {number : Nat} : d.interval.holds number place = true ↔ d.Covers (number * 10 ^ place) := by
  have tens := tens_eq place
  have quarter : (d.interval.top : ℚ) = d.unit / 4 * d.interval.bottom :=
    (div_eq_iff (bottom_pos d).ne').mp (quarter_eq d)
  have factor : 0 < d.interval.bottom * ((if place < 0 then Nat.pow 10 place.natAbs else 1 : Nat) : ℚ) :=
    mul_pos (bottom_pos d) (tens_pos place)
  rw [Interval.holds, Covers]
  generalize (if place < 0 then 1 else Nat.pow 10 place.natAbs) = whole at *
  generalize (if place < 0 then Nat.pow 10 place.natAbs else 1) = parts at *
  have left : ((number * whole * d.interval.bottom : Nat) : ℚ) =
      number * 10 ^ place * (d.interval.bottom * parts) := by
    rw [Nat.cast_mul, Nat.cast_mul, tens]
    ring
  have right (count : Nat) : ((count * (d.interval.top * parts) : Nat) : ℚ) =
      count * (d.unit / 4) * (d.interval.bottom * parts) := by
    rw [Nat.cast_mul, Nat.cast_mul, quarter]
    ring
  split
  · rw [Bool.and_eq_true, decide_eq_true_iff, decide_eq_true_iff, ← Nat.cast_le (α := ℚ), ← Nat.cast_le (α := ℚ), left, right, right,
      mul_le_mul_iff_left₀ factor, mul_le_mul_iff_left₀ factor]
  · rw [Bool.and_eq_true, decide_eq_true_iff, decide_eq_true_iff, ← Nat.cast_lt (α := ℚ), ← Nat.cast_lt (α := ℚ), left, right, right,
      mul_lt_mul_iff_left₀ factor, mul_lt_mul_iff_left₀ factor]

private theorem scaled_eq (d : Double) (place : Int) :
    ((d.interval.scaled place).1 : ℚ) / (d.interval.scaled place).2 = d.size / 10 ^ place := by
  have quarter : (d.interval.top : ℚ) = d.unit / 4 * d.interval.bottom :=
    (div_eq_iff (bottom_pos d).ne').mp (quarter_eq d)
  have value : (d.interval.value : ℚ) = 4 * d.significand := by simp [interval]
  have bottom := bottom_pos d
  have tens := tens_pos place
  have power : (0 : ℚ) < 10 ^ place := zpow_pos ten_pos _
  rw [Interval.scaled, Nat.cast_mul, Nat.cast_mul, Nat.cast_mul, tens_eq, quarter, value, size]
  field_simp

private theorem scaled_pos (d : Double) (place : Int) : 0 < (d.interval.scaled place).2 := by
  have bottom : 0 < d.interval.bottom := Nat.cast_pos.mp (bottom_pos d)
  rw [Interval.scaled]
  dsimp only
  split
  · exact Nat.mul_pos bottom Nat.one_pos
  · exact Nat.mul_pos bottom (Nat.pow_pos (by decide))

end Intervals

section Magnitudes

/-- Powers of two and of ten compare as their own powers do. -/
theorem zpow_le_of_pow {base other : ℚ} {first second : Int} (count : Nat) (some : count ≠ 0) (positive : 0 < base)
    (otherPositive : 0 < other) (powers : base ^ (first * count) ≤ other ^ (second * count)) :
    base ^ first ≤ other ^ second := by
  rw [zpow_mul, zpow_mul, zpow_natCast, zpow_natCast] at powers
  exact (pow_le_pow_iff_left₀ (zpow_pos positive _).le (zpow_pos otherPositive _).le some).mp powers

/-- Ten doublings are more than three tenfoldings, and ninety-three are less than twenty-eight. -/
theorem tens_le_twos {count : Int} (forwards : 0 ≤ count) : (10 : ℚ) ^ (3 * count) ≤ 2 ^ (10 * count) := by
  rw [zpow_mul, zpow_mul]
  exact zpow_le_zpow_left₀ forwards (by norm_num) (by norm_num)

private theorem twos_le_tens {count : Int} (forwards : 0 ≤ count) : (2 : ℚ) ^ (93 * count) ≤ 10 ^ (28 * count) := by
  rw [zpow_mul, zpow_mul]
  exact zpow_le_zpow_left₀ forwards (by norm_num) (by norm_num)

private theorem zpow_le_of_neg {base other : ℚ} {first second : Int} (positive : 0 < base) (otherPositive : 0 < other)
    (less : base ^ (-first) ≤ other ^ (-second)) : other ^ second ≤ base ^ first := by
  rw [zpow_neg, zpow_neg] at less
  exact (inv_le_inv₀ (zpow_pos positive _) (zpow_pos otherPositive _)).mp less

private theorem ten_zpow_mono {first second : Int} (less : first ≤ second) : (10 : ℚ) ^ first ≤ 10 ^ second :=
  zpow_le_zpow_right₀ (by norm_num) less

variable {exponent : Int}

/-- The first guess at the decimal exponent of a power of two is a little too small. -/
theorem guess_le (lower : -1074 ≤ exponent) (upper : exponent ≤ 1023) :
    (10 : ℚ) ^ (exponent * 30103 / 100000 - 1 - 1) ≤ 2 ^ exponent := by
  rcases le_total 0 exponent with forwards | backwards
  · apply zpow_le_of_pow 10 (by decide) ten_pos two_pos
    calc (10 : ℚ) ^ ((exponent * 30103 / 100000 - 1 - 1) * (10 : Nat))
      _ ≤ 10 ^ (3 * exponent) := ten_zpow_mono (by omega)
      _ ≤ 2 ^ (10 * exponent) := tens_le_twos forwards
      _ = 2 ^ (exponent * (10 : Nat)) := by rw [mul_comm]; rfl
  · apply zpow_le_of_pow 93 (by decide) ten_pos two_pos
    calc (10 : ℚ) ^ ((exponent * 30103 / 100000 - 1 - 1) * (93 : Nat))
      _ ≤ 10 ^ (28 * exponent) := ten_zpow_mono (by omega)
      _ ≤ 2 ^ (93 * exponent) := by
        apply zpow_le_of_neg two_pos ten_pos
        rw [← mul_neg, ← mul_neg]
        exact twos_le_tens (by omega)
      _ = 2 ^ (exponent * (93 : Nat)) := by rw [mul_comm]; rfl

/-- Five tries from it are enough. -/
theorem le_guess (lower : -1074 ≤ exponent) (upper : exponent ≤ 1023) :
    (2 : ℚ) ^ (exponent + 1) ≤ 10 ^ (exponent * 30103 / 100000 - 1 + (5 : Nat) - 1) := by
  rcases le_total 0 (exponent + 1) with forwards | backwards
  · apply zpow_le_of_pow 93 (by decide) two_pos ten_pos
    calc (2 : ℚ) ^ ((exponent + 1) * (93 : Nat))
      _ = 2 ^ (93 * (exponent + 1)) := by rw [mul_comm]; rfl
      _ ≤ 10 ^ (28 * (exponent + 1)) := twos_le_tens forwards
      _ ≤ 10 ^ ((exponent * 30103 / 100000 - 1 + (5 : Nat) - 1) * (93 : Nat)) := ten_zpow_mono (by omega)
  · apply zpow_le_of_pow 10 (by decide) two_pos ten_pos
    calc (2 : ℚ) ^ ((exponent + 1) * (10 : Nat))
      _ = 2 ^ (10 * (exponent + 1)) := by rw [mul_comm]; rfl
      _ ≤ 10 ^ (3 * (exponent + 1)) := by
        apply zpow_le_of_neg ten_pos two_pos
        rw [← mul_neg, ← mul_neg]
        exact tens_le_twos (by omega)
      _ ≤ 10 ^ ((exponent * 30103 / 100000 - 1 + (5 : Nat) - 1) * (10 : Nat)) := ten_zpow_mono (by omega)

private theorem magnitude_spec {tries : Nat} {guess : Int} (low : 10 ^ (guess - 1) ≤ d.size)
    (high : d.size < 10 ^ (guess + tries - 1)) :
    10 ^ (magnitude d.interval tries guess - 1) ≤ d.size ∧ d.size < 10 ^ magnitude d.interval tries guess := by
  -- The upper bound says that a guess as far on as the tries left reach is large enough.
  induction tries generalizing guess with
  | zero =>
    rw [Nat.cast_zero, add_zero] at high
    exact absurd low (not_le.mpr high)
  | succ tries ih =>
    rw [magnitude]
    have bottom : (0 : ℚ) < (d.interval.scaled guess).2 := Nat.cast_pos.mpr (scaled_pos d guess)
    have reached : (d.interval.scaled guess).1 < (d.interval.scaled guess).2 ↔ d.size < 10 ^ guess := by
      rw [← Nat.cast_lt (α := ℚ), ← div_lt_one bottom, scaled_eq, div_lt_one (zpow_pos ten_pos _)]
    simp only [reached]
    split
    next below => exact ⟨low, below⟩
    next above =>
      apply ih
      · simpa using not_lt.mp above
      · rwa [show guess + 1 + tries - 1 = guess + (tries + 1 : Nat) - 1 by omega]

/-- The place of the decimal point is known exactly. -/
theorem point_spec (finite : d.isFinite = true) (solid : d.significand ≠ 0) :
    10 ^ (d.point - 1) ≤ d.size ∧ d.size < 10 ^ d.point := by
  have low : (2 : ℚ) ^ (d.scale + d.significand.log2) ≤ d.size := by
    rw [add_comm, zpow_add₀ two_ne_zero, zpow_natCast, size, unit]
    apply mul_le_mul_of_nonneg_right _ (zpow_pos two_pos _).le
    exact_mod_cast Nat.log2_self_le solid
  have high : d.size < 2 ^ (d.scale + d.significand.log2 + 1) := by
    rw [add_assoc, add_comm, zpow_add₀ two_ne_zero, size, unit]
    apply mul_lt_mul_of_pos_right _ (zpow_pos two_pos _)
    exact_mod_cast Nat.lt_log2_self
  have digits : d.significand.log2 < 53 := (Nat.log2_lt solid).mpr d.significand_lt
  have lower := d.le_scale
  have upper := scale_le finite
  rw [point]
  apply magnitude_spec
  · exact (guess_le (by omega) (by omega)).trans low
  · exact high.trans_le (le_guess (by omega) (by omega))

end Magnitudes

section Searching

variable {number : Nat}

def neighbours (top bottom : Nat) : Nat × Nat :=
  if 2 * (top % bottom) < bottom || (2 * (top % bottom) == bottom && top / bottom % 2 == 0)
    then (top / bottom, top / bottom + 1) else (top / bottom + 1, top / bottom)

private theorem candidate?_eq (i : Interval) (place : Int) : i.candidate? place =
    let (first, second) := neighbours (i.scaled place).1 (i.scaled place).2
    if 0 < first && i.holds first place then some first
    else if 0 < second && i.holds second place then some second
    else none := rfl

private theorem candidate?_covers (found : d.interval.candidate? place = some number) :
    0 < number ∧ d.Covers (number * 10 ^ place) := by
  rw [candidate?_eq] at found
  generalize neighbours (d.interval.scaled place).1 (d.interval.scaled place).2 = pair at found
  obtain ⟨first, second⟩ := pair
  dsimp only at found
  split at found
  next holds =>
    cases found
    rwa [Bool.and_eq_true, decide_eq_true_iff, holds_iff] at holds
  next =>
    split at found
    next holds =>
      cases found
      rwa [Bool.and_eq_true, decide_eq_true_iff, holds_iff] at holds
    next => cases found

/-- The nearer of the two neighbours is at most half a step away. -/
theorem near_neighbour (top : Nat) {bottom : Nat} (positive : 0 < bottom) :
    (top / bottom : ℚ) - 1 / 2 ≤ (neighbours top bottom).1 ∧
      ((neighbours top bottom).1 : ℚ) ≤ top / bottom + 1 / 2 := by
  have size : (0 : ℚ) < bottom := Nat.cast_pos.mpr positive
  have parts : ((top / bottom : Nat) : ℚ) * bottom + (top % bottom : Nat) = top := by
    exact_mod_cast Nat.div_add_mod' top bottom
  have rest : ((top % bottom : Nat) : ℚ) < bottom := Nat.cast_lt.mpr (Nat.mod_lt top positive)
  have value : (top / bottom : ℚ) = (top / bottom : Nat) + (top % bottom : Nat) / bottom := by
    rw [eq_comm, ← parts]
    field_simp
  have small : (0 : ℚ) ≤ (top % bottom : Nat) / bottom := by positivity
  have large : ((top % bottom : Nat) : ℚ) / bottom < 1 := (div_lt_one size).mpr rest
  rw [value, neighbours]
  split
  next below =>
    have half : ((top % bottom : Nat) : ℚ) / bottom ≤ 1 / 2 := by
      rw [div_le_iff₀ size]
      have : 2 * (top % bottom) ≤ bottom := by
        simp only [Bool.or_eq_true, decide_eq_true_eq, Bool.and_eq_true, beq_iff_eq] at below
        omega
      have : (2 * (top % bottom : Nat) : ℚ) ≤ bottom := by exact_mod_cast this
      linarith
    exact ⟨by linarith, by linarith⟩
  next above =>
    have half : (1 / 2 : ℚ) ≤ (top % bottom : Nat) / bottom := by
      rw [le_div_iff₀ size]
      have : bottom ≤ 2 * (top % bottom) := by
        simp only [Bool.or_eq_true, decide_eq_true_eq, Bool.and_eq_true, beq_iff_eq] at above
        omega
      have : (bottom : ℚ) ≤ 2 * (top % bottom : Nat) := by exact_mod_cast this
      linarith
    push_cast
    exact ⟨by linarith, by linarith⟩

/-- A number much nearer than the spacing of the doubles is in the interval. -/
theorem covers_of_near (solid : d.significand ≠ 0) {step number : ℚ} (fine : 10 ^ 16 * step ≤ d.size)
    (positive : 0 < step) (low : d.size - step / 2 ≤ number) (high : number ≤ d.size + step / 2) : d.Covers number := by
  have spaced := d.unit_pos
  have count : (d.significand : ℚ) ≤ 2 ^ 53 := by exact_mod_cast d.significand_lt.le
  rw [size] at *
  have small : step < d.unit := by
    have := mul_le_mul_of_nonneg_right count spaced.le
    linarith
  apply covers_of_inside
  · rcases low_eq solid with ⟨narrow, same⟩ | ⟨_, same⟩
    · rw [same]
      rw [narrow.1] at *
      push_cast at *
      linarith
    · rw [same]
      linarith
  · rw [high_eq]
    linarith

private theorem candidate?_ne_none (solid : d.significand ≠ 0) (fine : 10 ^ 16 * 10 ^ place ≤ d.size) :
    d.interval.candidate? place ≠ none := by
  have step : (0 : ℚ) < 10 ^ place := zpow_pos ten_pos _
  obtain ⟨low, high⟩ := near_neighbour (d.interval.scaled place).1 (scaled_pos d place)
  rw [candidate?_eq]
  generalize neighbours (d.interval.scaled place).1 (d.interval.scaled place).2 = pair at *
  obtain ⟨first, second⟩ := pair
  rw [scaled_eq, div_sub' step.ne', div_le_iff₀ step] at low
  rw [scaled_eq, div_add' _ _ _ step.ne', le_div_iff₀ step] at high
  have covers : d.Covers (first * 10 ^ place) := covers_of_near solid fine step (by linarith) (by linarith)
  have some : 0 < first := Nat.cast_pos.mp (pos_of_mul_pos_left (covers.pos solid) step.le)
  simp [holds_iff, some, covers]

/-- The search ends with a number in the interval if its last step is fine enough. -/
theorem search_covers (solid : d.significand ≠ 0) {point : Int} {more count : Nat}
    (fine : 10 ^ 16 * 10 ^ (point - (count + more : Nat)) ≤ d.size) :
    0 < (search d.interval point (more + 1) count).1 ∧
      d.Covers ((search d.interval point (more + 1) count).1 * 10 ^ (search d.interval point (more + 1) count).2) := by
  induction more generalizing count with
  | zero =>
    rw [search]
    split
    next number found => exact candidate?_covers found
    next none => exact absurd none (candidate?_ne_none solid fine)
  | succ more ih =>
    rw [search]
    split
    next number found => exact candidate?_covers found
    next => exact ih (by rwa [show count + 1 + more = count + (more + 1) by omega])

private theorem search_point (finite : d.isFinite = true) (solid : d.significand ≠ 0) :
    0 < (search d.interval d.point 17 1).1 ∧
      d.Covers ((search d.interval d.point 17 1).1 * 10 ^ (search d.interval d.point 17 1).2) := by
  apply search_covers solid
  have split : (d.point - 1 : Int) = 16 + (d.point - (1 + 16 : Nat)) := by omega
  have low := (point_spec finite solid).1
  rw [split, zpow_add₀ ten_pos.ne'] at low
  exact low

end Searching

end Double

section Digits

theorem toList_toString (number : Nat) : (toString number).toList = Nat.toDigits 10 number := by
  rw [Nat.toString_eq_repr, Nat.repr_eq_ofList_toDigits, String.toList_ofList]

theorem isDigit_toDigits (number : Nat) : ∀ c ∈ Nat.toDigits 10 number, c.isDigit = true :=
  fun _ member => Nat.isDigit_of_mem_toDigits (by decide) (by decide) member

theorem codes_of_isDigit {c : Char} (digit : c.isDigit = true) : 0x30 ≤ c.toNat ∧ c.toNat ≤ 0x39 :=
  Char.isDigit_iff_toNat.mp digit

private theorem ofDigitChars_lt {letters : List Char} (digits : ∀ c ∈ letters, c.isDigit = true) :
    Nat.ofDigitChars 10 letters 0 < 10 ^ letters.length := by
  induction letters with
  | nil => simp
  | cons c rest ih =>
    obtain ⟨digit, digits⟩ := List.forall_mem_cons.mp digits
    have small : c.toNat - '0'.toNat ≤ 9 := by
      have code : '0'.toNat = 0x30 := rfl
      have := (codes_of_isDigit digit).2
      omega
    have scaled := Nat.mul_le_mul_left (10 ^ rest.length) small
    have later := ih digits
    rw [Nat.ofDigitChars_cons, Nat.ofDigitChars_eq_ofDigitChars_zero, List.length_cons, Nat.pow_succ, Nat.mul_zero,
      Nat.zero_add]
    omega

/-- The digits of a number other than zero do not begin with zero. -/
theorem head_toDigits {number : Nat} (some : number ≠ 0) {c : Char} {rest : List Char}
    (digits : Nat.toDigits 10 number = c :: rest) : c ≠ '0' := by
  rintro rfl
  have least := (Double.length_digits some).1
  have small : Nat.ofDigitChars 10 rest 0 < 10 ^ rest.length := by
    refine ofDigitChars_lt fun c member => ?_
    exact isDigit_toDigits number c (digits ▸ List.mem_cons_of_mem _ member)
  have value : number = Nat.ofDigitChars 10 rest 0 := by
    conv_lhs => rw [← Nat.ofDigitChars_ten_toDigits (n := number), digits]
    rfl
  rw [← String.length_toList, toList_toString, digits] at least
  simp at least
  omega

end Digits

namespace Decimal

/-- The number that a decimal stands for. -/
def value (decimal : Decimal) : ℚ :=
  Nat.ofDigitChars 10 decimal.digits 0 * 10 ^ (decimal.point - decimal.digits.length)

structure Trimmed (decimal : Decimal) : Prop where
  digits : ∀ c ∈ decimal.digits, c.isDigit = true
  first : ∃ c rest, decimal.digits = c :: rest ∧ c ≠ '0'
  last : ∃ rest c, decimal.digits = rest ++ [c] ∧ c ≠ '0'

variable {number : Nat} {place : Int}

def ofNumber (number : Nat) (place : Int) : Decimal :=
  let digits := (toString number).toList
  ⟨(digits.reverse.dropWhile (· == '0')).reverse, place + digits.length⟩

private theorem exists_zeros (number : Nat) (place : Int) : ∃ count, Nat.toDigits 10 number =
    (ofNumber number place).digits ++ List.replicate count '0' := by
  have zeros : (Nat.toDigits 10 number).rtakeWhile (· == '0') =
      List.replicate ((Nat.toDigits 10 number).rtakeWhile (· == '0')).length '0' := by
    apply List.eq_replicate_of_mem
    intro c member
    have inside : c ∈ (Nat.toDigits 10 number).reverse.takeWhile (· == '0') := List.mem_reverse.mp member
    simpa using List.mem_takeWhile_imp inside
  refine ⟨((Nat.toDigits 10 number).rtakeWhile (· == '0')).length, ?_⟩
  rw [← zeros, ofNumber, toList_toString]
  exact List.rdropWhile_append_rtakeWhile.symm

private theorem value_ofNumber (number : Nat) (place : Int) : (ofNumber number place).value = number * 10 ^ place := by
  obtain ⟨count, split⟩ := exists_zeros number place
  have spelled : number = 10 ^ count * Nat.ofDigitChars 10 (ofNumber number place).digits 0 := by
    conv_lhs => rw [← Nat.ofDigitChars_ten_toDigits (n := number), split, Nat.ofDigitChars_append,
      Nat.ofDigitChars_replicate_zero]
  have point : (ofNumber number place).point = place + (ofNumber number place).digits.length + count := by
    have size := congrArg List.length split
    rw [List.length_append, List.length_replicate] at size
    rw [ofNumber, toList_toString, size, ofNumber, toList_toString]
    push_cast
    ring
  rw [value, point]
  conv_rhs => rw [spelled]
  rw [show place + (ofNumber number place).digits.length + count - (ofNumber number place).digits.length =
    place + (count : Int) by ring, zpow_add₀ Double.ten_pos.ne', zpow_natCast]
  push_cast
  ring

private theorem trimmed_ofNumber (some : number ≠ 0) : (ofNumber number place).Trimmed := by
  obtain ⟨count, split⟩ := exists_zeros number place
  have rest : (ofNumber number place).digits ≠ [] := by
    intro none
    rw [none, List.nil_append] at split
    have zero := Nat.ofDigitChars_ten_toDigits (n := number)
    rw [split, Nat.ofDigitChars_replicate_zero] at zero
    simp at zero
    omega
  refine ⟨?_, ?_, ?_⟩
  · intro c member
    exact isDigit_toDigits number c (split ▸ List.mem_append_left _ member)
  · obtain ⟨c, rest, same⟩ := List.exists_cons_of_ne_nil rest
    refine ⟨c, rest, same, ?_⟩
    rw [same, List.cons_append] at split
    exact head_toDigits some split
  · refine ⟨_, _, (List.dropLast_append_getLast rest).symm, ?_⟩
    intro zero
    exact List.rdropWhile_last_not (· == '0') (toString number).toList rest (beq_iff_eq.mpr zero)

end Decimal

namespace Double

private theorem shortest_eq (solid : d.significand ≠ 0) : d.shortest =
    .ofNumber (search d.interval d.point 17 1).1 (search d.interval d.point 17 1).2 := by
  rw [shortest, if_neg solid]
  rfl

/-- The shortest digits of a double stand for a number in its interval. -/
theorem shortest_spec (finite : d.isFinite = true) (solid : d.significand ≠ 0) :
    d.shortest.Trimmed ∧ d.Covers d.shortest.value := by
  obtain ⟨some, covers⟩ := search_point finite solid
  rw [shortest_eq solid, Decimal.value_ofNumber]
  exact ⟨Decimal.trimmed_ofNumber some.ne', covers⟩

end Double
end BoxTree
