import Mathlib
import BoxTree.Number.Shortest

/-! Decimals that read back as a double: all those in the interval around it that rounding leads to it. -/

namespace BoxTree.Double

variable {d : Double}

section Fields

private theorem toNat_bits_lt (d : Double) : d.bits.toNat < 2 ^ 64 := d.bits.toNat_lt

private theorem isNegative_eq (d : Double) : d.isNegative = decide (d.bits.toNat / 2 ^ 63 = 1) := by
  rw [isNegative, Bool.eq_iff_iff, beq_iff_eq, decide_eq_true_iff, ← UInt64.toNat_inj]
  simp [Nat.shiftRight_eq_div_pow]

private theorem exponentField_eq (d : Double) : d.exponentField = d.bits.toNat / 2 ^ 52 % 2 ^ 11 := by
  rw [exponentField, UInt64.toNat_and, UInt64.toNat_shiftRight]
  have mask : (0x7ff : UInt64).toNat = 2 ^ 11 - 1 := rfl
  rw [mask, Nat.and_two_pow_sub_one_eq_mod, Nat.shiftRight_eq_div_pow]
  rfl

private theorem fractionField_eq (d : Double) : d.fractionField = d.bits.toNat % 2 ^ 52 := by
  have mask : (0xfffffffffffff : UInt64).toNat = 2 ^ 52 - 1 := rfl
  rw [fractionField, UInt64.toNat_and, mask, Nat.and_two_pow_sub_one_eq_mod]

private theorem exponentField_lt (d : Double) : d.exponentField < 2 ^ 11 := by
  rw [exponentField_eq]
  exact Nat.mod_lt _ (by decide)

private theorem fractionField_lt (d : Double) : d.fractionField < 2 ^ 52 := by
  rw [fractionField_eq]
  exact Nat.mod_lt _ (by decide)

/-- A double is made of its fields. -/
theorem ofFields_fields (d : Double) : ofFields d.isNegative d.exponentField d.fractionField = d := by
  have size := toNat_bits_lt d
  suffices same : (ofFields d.isNegative d.exponentField d.fractionField).bits.toNat = d.bits.toNat by
    cases d
    exact congrArg Double.mk (UInt64.toNat_inj.mp same)
  have below : d.exponentField * 0x10000000000000 + d.fractionField < 2 ^ 63 := by
    have first := exponentField_lt d
    have second := fractionField_lt d
    omega
  have sign : (if d.isNegative then (0x8000000000000000 : UInt64) else 0).toNat = 2 ^ 63 * (d.bits.toNat / 2 ^ 63) := by
    rw [isNegative_eq]
    by_cases negative : d.bits.toNat / 2 ^ 63 = 1
    · rw [if_pos (by simpa using negative), negative]
      rfl
    · rw [if_neg (by simpa using negative), show d.bits.toNat / 2 ^ 63 = 0 by omega]
      rfl
  rw [ofFields, UInt64.toNat_or, sign, UInt64.toNat_ofNat_of_lt' (below.trans (by decide)),
    ← Nat.two_pow_add_eq_or_of_lt below, exponentField_eq, fractionField_eq]
  omega

end Fields

section Scaled

theorem significand_lt (d : Double) : d.significand < 2 ^ 53 := by
  have small := fractionField_lt d
  have power : Nat.pow 2 52 = 2 ^ 52 := rfl
  unfold significand
  split <;> omega

theorem le_scale (d : Double) : -1074 ≤ d.scale := by
  unfold scale
  split <;> omega

theorem scale_le (finite : d.isFinite = true) : d.scale ≤ 971 := by
  have small := exponentField_lt d
  have other : d.exponentField ≠ 0x7ff := by simpa [isFinite] using finite
  unfold scale
  split <;> omega

/-- Only the doubles of the least scale may have a small significand. -/
theorem le_significand (d : Double) (above : -1074 < d.scale) : 2 ^ 52 ≤ d.significand := by
  have power : Nat.pow 2 52 = 2 ^ 52 := rfl
  unfold scale at above
  unfold significand
  split at above
  · omega
  next normal =>
    rw [if_neg normal]
    omega

private theorem ofScaled_eq (finite : d.isFinite = true) : ofScaled d.isNegative d.significand d.scale = d := by
  have power : Nat.pow 2 52 = 2 ^ 52 := rfl
  have small := fractionField_lt d
  have scale_le := scale_le finite
  conv_rhs => rw [← ofFields_fields d]
  by_cases subnormal : d.exponentField = 0
  · have count : d.significand = d.fractionField := by rw [significand, if_pos subnormal]
    rw [ofScaled, count, if_pos (power ▸ small), subnormal]
  · have count : d.significand = 2 ^ 52 + d.fractionField := by rw [significand, if_neg subnormal, power]
    have place : (d.scale + 1075).toNat = d.exponentField := by
      rw [scale, if_neg subnormal]
      omega
    rw [ofScaled, if_neg (by omega), if_neg (by omega), place, count, power, Nat.add_sub_cancel_left]

end Scaled

section Rounding

/-- Rounding a quotient gives the whole number at most one half away from it, of two such the even one. -/
theorem roundDiv_eq {top bottom count : Nat} (positive : 0 < bottom) (above : (count : ℚ) - 1 / 2 ≤ top / bottom)
    (below : (top / bottom : ℚ) ≤ count + 1 / 2)
    (tie : count % 2 = 0 ∨ (count : ℚ) - 1 / 2 < top / bottom ∧ (top / bottom : ℚ) < count + 1 / 2) :
    roundDiv top bottom = count := by
  have size : (0 : ℚ) < bottom := Nat.cast_pos.mpr positive
  have least : 2 * (count * bottom) ≤ 2 * top + bottom := by
    rw [le_div_iff₀ size] at above
    have : (2 * (count * bottom) : ℚ) ≤ 2 * top + bottom := by linarith
    exact_mod_cast this
  have most : 2 * top ≤ 2 * (count * bottom) + bottom := by
    rw [div_le_iff₀ size] at below
    have : (2 * top : ℚ) ≤ 2 * (count * bottom) + bottom := by linarith
    exact_mod_cast this
  have even : count % 2 = 0 ∨ 2 * (count * bottom) < 2 * top + bottom ∧ 2 * top < 2 * (count * bottom) + bottom := by
    rw [lt_div_iff₀ size, div_lt_iff₀ size] at tie
    refine tie.imp_right fun ⟨first, second⟩ => ⟨?_, ?_⟩
    · have : (2 * (count * bottom) : ℚ) < 2 * top + bottom := by linarith
      exact_mod_cast this
    · have : (2 * top : ℚ) < 2 * (count * bottom) + bottom := by linarith
      exact_mod_cast this
  have parts : bottom * (top / bottom) + top % bottom = top := Nat.div_add_mod top bottom
  have rest : top % bottom < bottom := Nat.mod_lt top positive
  rw [roundDiv]
  generalize top / bottom = whole at *
  generalize top % bottom = left at *
  have near : whole = count ∨ whole + 1 = count := by
    have upper : whole ≤ count := by
      by_contra beyond
      have := Nat.mul_le_mul_right bottom (show count + 1 ≤ whole by omega)
      rw [Nat.add_mul, Nat.mul_comm whole] at this
      omega
    have lower : count ≤ whole + 1 := by
      by_contra beyond
      have := Nat.mul_le_mul_right bottom (show whole + 2 ≤ count by omega)
      rw [Nat.add_mul, Nat.mul_comm whole] at this
      omega
    omega
  rcases near with rfl | rfl
  · rw [Nat.mul_comm whole] at *
    rw [if_neg (by simp only [Bool.or_eq_true, decide_eq_true_eq, Bool.and_eq_true, beq_iff_eq]; omega)]
  · rw [Nat.add_mul, Nat.mul_comm whole] at *
    rw [if_pos (by simp only [Bool.or_eq_true, decide_eq_true_eq, Bool.and_eq_true, beq_iff_eq]; omega)]

end Rounding

section Powers

variable {scale : Int}

theorem two_zpow_of_nonpos (nonpos : scale ≤ 0) : (2 : ℚ) ^ scale = (2 ^ scale.natAbs)⁻¹ := by
  rw [← zpow_natCast, ← zpow_neg]
  congr 1
  omega

theorem two_zpow_of_nonneg (nonneg : 0 ≤ scale) : (2 : ℚ) ^ scale = 2 ^ scale.natAbs := by
  rw [← zpow_natCast]
  congr 1
  omega

private theorem lt_of_two_zpow_lt {first second : Int} (less : (2 : ℚ) ^ first < 2 ^ second) : first < second :=
  (zpow_lt_zpow_iff_right₀ (by norm_num)).mp less

end Powers

section Units

variable {top bottom : Nat} {scale : Int}

/-- The value in units of a power of two. -/
theorem inUnits_eq (top bottom : Nat) (scale : Int) :
    ((inUnits top bottom scale).1 : ℚ) / (inUnits top bottom scale).2 = top / bottom / 2 ^ scale := by
  unfold inUnits
  split
  next negative =>
    rw [two_zpow_of_nonpos negative.le, div_inv_eq_mul]
    simp only [Nat.pow_eq, Nat.cast_mul, Nat.cast_pow, Nat.cast_ofNat]
    ring
  next whole =>
    rw [two_zpow_of_nonneg (not_lt.mp whole)]
    simp only [Nat.pow_eq, Nat.cast_mul, Nat.cast_pow, Nat.cast_ofNat]
    rw [div_div]

private theorem inUnits_pos (positive : 0 < bottom) : 0 < (inUnits top bottom scale).2 := by
  unfold inUnits
  split
  · exact positive
  · exact Nat.mul_pos positive (Nat.two_pow_pos _)

def fitted (top bottom : Nat) : Int :=
  let guess : Int := (top.log2 : Int) - bottom.log2 - 52
  let (a, b) := inUnits top bottom guess
  if a / b < Nat.pow 2 52 then guess - 1 else guess

private theorem fitted_spec (some : 0 < top) (positive : 0 < bottom) :
    2 ^ 52 * (2 : ℚ) ^ fitted top bottom ≤ top / bottom ∧ (top / bottom : ℚ) < 2 ^ 53 * 2 ^ fitted top bottom := by
  have size : (0 : ℚ) < bottom := Nat.cast_pos.mpr positive
  have topLow : (2 : ℚ) ^ (top.log2 : Int) ≤ top := by exact_mod_cast Nat.log2_self_le some.ne'
  have topHigh : (top : ℚ) < 2 ^ (top.log2 + 1 : Int) := by exact_mod_cast Nat.lt_log2_self
  have bottomLow : (2 : ℚ) ^ (bottom.log2 : Int) ≤ bottom := by exact_mod_cast Nat.log2_self_le positive.ne'
  have bottomHigh : (bottom : ℚ) < 2 ^ (bottom.log2 + 1 : Int) := by exact_mod_cast Nat.lt_log2_self
  have shift (count : Nat) (scale : Int) : (2 : ℚ) ^ count * 2 ^ scale = 2 ^ (count + scale : Int) := by
    rw [zpow_add₀ two_ne_zero, zpow_natCast]
  have low : 2 ^ 51 * (2 : ℚ) ^ ((top.log2 : Int) - bottom.log2 - 52) ≤ top / bottom := by
    rw [le_div_iff₀ size, shift]
    calc (2 : ℚ) ^ (((51 : Nat) : Int) + (top.log2 - bottom.log2 - 52)) * bottom
      _ ≤ 2 ^ (((51 : Nat) : Int) + (top.log2 - bottom.log2 - 52)) * 2 ^ (bottom.log2 + 1 : Int) := by gcongr
      _ = 2 ^ (top.log2 : Int) := by rw [← zpow_add₀ two_ne_zero]; congr 1; omega
      _ ≤ top := topLow
  have high : (top / bottom : ℚ) < 2 ^ 53 * 2 ^ ((top.log2 : Int) - bottom.log2 - 52) := by
    rw [div_lt_iff₀ size, shift]
    calc (top : ℚ)
      _ < 2 ^ (top.log2 + 1 : Int) := topHigh
      _ = 2 ^ (((53 : Nat) : Int) + (top.log2 - bottom.log2 - 52)) * 2 ^ (bottom.log2 : Int) := by
        rw [← zpow_add₀ two_ne_zero]; congr 1; omega
      _ ≤ 2 ^ (((53 : Nat) : Int) + (top.log2 - bottom.log2 - 52)) * bottom := by gcongr
  rw [fitted]
  generalize (top.log2 : Int) - bottom.log2 - 52 = guess at *
  have unit : (0 : ℚ) < 2 ^ guess := zpow_pos two_pos _
  have small : (inUnits top bottom guess).1 / (inUnits top bottom guess).2 < Nat.pow 2 52 ↔
      (top / bottom : ℚ) < 2 ^ 52 * 2 ^ guess := by
    rw [Nat.div_lt_iff_lt_mul (inUnits_pos positive), ← div_lt_iff₀ unit, ← inUnits_eq,
      div_lt_iff₀ (Nat.cast_pos.mpr (inUnits_pos positive))]
    exact_mod_cast Iff.rfl
  have half : (2 : ℚ) ^ (guess - 1) = 2 ^ guess / 2 := by rw [zpow_sub_one₀ two_ne_zero]; ring
  simp only [small]
  split
  next below =>
    rw [half]
    exact ⟨by linarith, by linarith⟩
  next above => exact ⟨not_lt.mp above, high⟩

end Units

section Covered

def unit (d : Double) : ℚ := 2 ^ d.scale

def size (d : Double) : ℚ := d.significand * d.unit

/-- The numbers in the interval of a double. -/
def Covers (d : Double) (number : ℚ) : Prop :=
  if d.interval.closed then d.interval.low * (d.unit / 4) ≤ number ∧ number ≤ d.interval.high * (d.unit / 4)
  else d.interval.low * (d.unit / 4) < number ∧ number < d.interval.high * (d.unit / 4)

theorem unit_pos (d : Double) : 0 < d.unit := zpow_pos two_pos _

/-- The doubles below this one are nearer than those above it. -/
def IsNarrow (d : Double) : Prop := d.significand = 2 ^ 52 ∧ -1074 < d.scale

theorem low_eq (solid : d.significand ≠ 0) :
    (d.IsNarrow ∧ (d.interval.low : ℚ) = 4 * d.significand - 1) ∨
      ¬ d.IsNarrow ∧ (d.interval.low : ℚ) = 4 * d.significand - 2 := by
  have power : Nat.pow 2 52 = 2 ^ 52 := rfl
  have normal : -1074 < d.scale ↔ 1 < d.exponentField := by
    unfold scale
    split <;> omega
  by_cases narrow : d.IsNarrow
  · have low : d.interval.low + 1 = 4 * d.significand := by
      obtain ⟨count, above⟩ := narrow
      simp [interval, count, normal.mp above]
    refine .inl ⟨narrow, ?_⟩
    rw [eq_sub_iff_add_eq]
    exact_mod_cast low
  · have low : d.interval.low + 2 = 4 * d.significand := by
      have other : (d.significand == Nat.pow 2 52 && decide (1 < d.exponentField)) = false := by
        simpa [IsNarrow, normal, power] using narrow
      simp only [interval, other]
      simp only [Bool.false_eq_true, if_false]
      omega
    refine .inr ⟨narrow, ?_⟩
    rw [eq_sub_iff_add_eq]
    exact_mod_cast low

theorem high_eq (d : Double) : (d.interval.high : ℚ) = 4 * d.significand + 2 := by
  simp [interval]

private theorem closed_iff : d.interval.closed = true ↔ d.significand % 2 = 0 := by simp [interval]

variable {number : ℚ}

private theorem Covers.ends (covers : d.Covers number) :
    d.interval.low * (d.unit / 4) ≤ number ∧ number ≤ d.interval.high * (d.unit / 4) := by
  unfold Covers at covers
  split at covers
  · exact covers
  · exact ⟨covers.1.le, covers.2.le⟩

private theorem Covers.inside (covers : d.Covers number) (odd : d.significand % 2 ≠ 0) :
    d.interval.low * (d.unit / 4) < number ∧ number < d.interval.high * (d.unit / 4) := by
  rwa [Covers, if_neg (mt closed_iff.mp odd)] at covers

theorem covers_of_inside (low : d.interval.low * (d.unit / 4) < number) (high : number < d.interval.high * (d.unit / 4)) :
    d.Covers number := by
  unfold Covers
  split
  · exact ⟨low.le, high.le⟩
  · exact ⟨low, high⟩

/-- A covered number is at most half a unit away, and less than that if the double is odd. -/
theorem Covers.near (solid : d.significand ≠ 0) (covers : d.Covers number) :
    (d.significand - 1 / 2) * d.unit ≤ number ∧ number ≤ (d.significand + 1 / 2) * d.unit ∧
      (d.significand % 2 = 0 ∨
        (d.significand - 1 / 2) * d.unit < number ∧ number < (d.significand + 1 / 2) * d.unit) := by
  have spaced := d.unit_pos
  obtain ⟨low, high⟩ := covers.ends
  have odd := covers.inside
  rw [high_eq] at high odd
  rcases low_eq solid with ⟨_, same⟩ | ⟨_, same⟩
  all_goals
    rw [same] at low odd
    refine ⟨by linarith, by linarith, ?_⟩
    rcases em (d.significand % 2 = 0) with even | other
    · exact .inl even
    · obtain ⟨first, second⟩ := odd other
      exact .inr ⟨by linarith, by linarith⟩

private theorem Covers.narrow (solid : d.significand ≠ 0) (covers : d.Covers number) (narrow : d.IsNarrow) :
    (2 ^ 52 - 1 / 4) * d.unit ≤ number := by
  have low := covers.ends.1
  rcases low_eq solid with ⟨_, same⟩ | ⟨wide, _⟩
  · rw [same, narrow.1] at low
    push_cast at low
    linarith
  · exact absurd narrow wide

/-- Only from a narrow double does a covered number lie below the power of two at which its scale begins. -/
theorem Covers.isNarrow (solid : d.significand ≠ 0) (covers : d.Covers number) (above : -1074 < d.scale)
    (below : number < 2 ^ 52 * d.unit) : d.IsNarrow := by
  have spaced := d.unit_pos
  have least := d.le_significand above
  have near := (covers.near solid).1
  refine ⟨?_, above⟩
  by_contra other
  have more : (2 ^ 52 + 1 : ℚ) ≤ d.significand := by exact_mod_cast Nat.lt_of_le_of_ne least (Ne.symm other)
  have := mul_le_mul_of_nonneg_right more spaced.le
  linarith

variable {top bottom : Nat}

/-- The scale of a covered number is that of the double, or the one below if the number is just below a power of two. -/
theorem Covers.scale_eq (solid : d.significand ≠ 0) (some : 0 < top) (positive : 0 < bottom)
    (covers : d.Covers (top / bottom)) :
    max (fitted top bottom) (-1074) = d.scale ∨
      d.IsNarrow ∧ max (fitted top bottom) (-1074) = d.scale - 1 ∧ (top / bottom : ℚ) < 2 ^ 52 * d.unit := by
  have spaced := d.unit_pos
  obtain ⟨low, high⟩ := fitted_spec some positive
  obtain ⟨near, nearToo, _⟩ := covers.near solid
  have next (scale : Int) : (2 : ℚ) ^ (scale + 1) = 2 ^ scale * 2 := zpow_add_one₀ two_ne_zero _
  have upper : fitted top bottom < d.scale + 1 := by
    apply lt_of_two_zpow_lt
    rw [next]
    have count : (d.significand : ℚ) + 1 ≤ 2 ^ 53 := by exact_mod_cast d.significand_lt
    have : (d.significand + 1 / 2) * d.unit < 2 ^ 53 * d.unit := by
      apply mul_lt_mul_of_pos_right _ spaced
      linarith
    change _ < d.unit * 2
    linarith
  by_cases least : d.scale = -1074
  · left
    omega
  have above : -1074 < d.scale := lt_of_le_of_ne d.le_scale (Ne.symm least)
  by_cases below : (top / bottom : ℚ) < 2 ^ 52 * d.unit
  · right
    have narrow := covers.isNarrow solid above below
    have close := covers.narrow solid narrow
    have lower : d.scale - 1 < fitted top bottom + 1 := by
      apply lt_of_two_zpow_lt
      rw [next, zpow_sub_one₀ two_ne_zero]
      change d.unit * 2⁻¹ < _
      linarith
    have strict : fitted top bottom < d.scale := by
      apply lt_of_two_zpow_lt
      change _ < d.unit
      linarith
    exact ⟨narrow, by omega, below⟩
  · left
    have lower : d.scale < fitted top bottom + 1 := by
      apply lt_of_two_zpow_lt
      rw [next]
      change d.unit < _
      linarith
    omega

private theorem nearest_eq_ofScaled (negative : Bool) (some : 0 < top) {count : Nat} {scale : Int}
    (fits : max (fitted top bottom) (-1074) = scale)
    (rounded : roundDiv (inUnits top bottom scale).1 (inUnits top bottom scale).2 = count) :
    nearest negative top bottom =
      if count = 2 ^ 53 then ofScaled negative (2 ^ 52) (scale + 1) else ofScaled negative count scale := by
  subst fits rounded
  rw [nearest, if_neg some.ne']
  rfl

/-- A fraction in the interval of a double is rounded to it. -/
theorem nearest_of_covers (finite : d.isFinite = true) (solid : d.significand ≠ 0) (some : 0 < top)
    (positive : 0 < bottom) (covers : d.Covers (top / bottom)) : nearest d.isNegative top bottom = d := by
  have spaced := d.unit_pos
  obtain ⟨near, nearToo, tie⟩ := covers.near solid
  rcases covers.scale_eq solid some positive with same | ⟨narrow, lower, below⟩
  · have rounded : roundDiv (inUnits top bottom d.scale).1 (inUnits top bottom d.scale).2 = d.significand := by
      have value := inUnits_eq top bottom d.scale
      change _ = top / bottom / d.unit at value
      apply roundDiv_eq (inUnits_pos positive)
      all_goals rw [value]
      · rwa [le_div_iff₀ spaced]
      · rwa [div_le_iff₀ spaced]
      · rwa [lt_div_iff₀ spaced, div_lt_iff₀ spaced]
    rw [nearest_eq_ofScaled _ some same rounded, if_neg d.significand_lt.ne, ofScaled_eq finite]
  · have half : (2 : ℚ) ^ (d.scale - 1) = d.unit / 2 := by
      rw [zpow_sub_one₀ two_ne_zero, ← div_eq_mul_inv]
      rfl
    have close := covers.narrow solid narrow
    have rounded : roundDiv (inUnits top bottom (d.scale - 1)).1 (inUnits top bottom (d.scale - 1)).2 = 2 ^ 53 := by
      apply roundDiv_eq (inUnits_pos positive)
      all_goals rw [inUnits_eq, half]
      · rw [le_div_iff₀ (half_pos spaced)]
        push_cast
        linarith
      · rw [div_le_iff₀ (half_pos spaced)]
        push_cast
        linarith
      · exact .inl rfl
    rw [nearest_eq_ofScaled _ some lower rounded, if_pos rfl, Int.sub_add_cancel, ← narrow.1, ofScaled_eq finite]

end Covered

section Decimals

variable {number : ℚ}

private theorem unit_le (finite : d.isFinite = true) : d.unit ≤ 2 ^ (971 : Int) :=
  zpow_le_zpow_right₀ (by norm_num) (scale_le finite)

private theorem le_unit (d : Double) : 2 ^ (-1074 : Int) ≤ d.unit := zpow_le_zpow_right₀ (by norm_num) d.le_scale

private theorem Covers.lt (finite : d.isFinite = true) (solid : d.significand ≠ 0) (covers : d.Covers number) :
    number < 10 ^ (400 : Int) := by
  have count : (d.significand : ℚ) + 1 ≤ 2 ^ 53 := by exact_mod_cast d.significand_lt
  calc number
    _ ≤ (d.significand + 1 / 2) * d.unit := (covers.near solid).2.1
    _ ≤ 2 ^ 53 * 2 ^ (971 : Int) := by
      refine mul_le_mul ?_ (unit_le finite) d.unit_pos.le (by norm_num)
      linarith
    _ = (2 ^ (128 : Int)) ^ (8 : Int) := by
      rw [← zpow_natCast, ← zpow_add₀ two_ne_zero, ← zpow_mul]
      rfl
    _ < (10 ^ (50 : Int)) ^ (8 : Int) := by norm_num
    _ = 10 ^ (400 : Int) := (zpow_mul 10 50 8).symm

private theorem Covers.gt (solid : d.significand ≠ 0) (covers : d.Covers number) : 10 ^ (-400 : Int) < number := by
  have count : (1 : ℚ) ≤ d.significand := by exact_mod_cast Nat.one_le_iff_ne_zero.mpr solid
  calc (10 : ℚ) ^ (-400 : Int)
    _ = (10 ^ (-80 : Int)) ^ (5 : Int) := zpow_mul 10 (-80) 5
    _ < (2 ^ (-215 : Int)) ^ (5 : Int) := by norm_num
    _ = 2⁻¹ * 2 ^ (-1074 : Int) := by
      rw [← zpow_mul, ← zpow_neg_one, ← zpow_add₀ two_ne_zero]
      rfl
    _ ≤ (d.significand - 1 / 2) * d.unit := by
      refine mul_le_mul ?_ d.le_unit (zpow_pos two_pos _).le ?_
      all_goals linarith
    _ ≤ number := (covers.near solid).1

theorem Covers.pos (solid : d.significand ≠ 0) (covers : d.Covers number) : 0 < number :=
  lt_trans (zpow_pos (by norm_num) _) (covers.gt solid)

private theorem length_toString (digits : Nat) : (toString digits).length = (Nat.toDigits 10 digits).length := by
  rw [← String.length_toList, Nat.toString_eq_repr, Nat.repr_eq_ofList_toDigits, String.toList_ofList]

/-- A whole number other than zero by the number of its digits. -/
theorem length_digits {digits : Nat} (some : digits ≠ 0) :
    10 ^ ((toString digits).length - 1) ≤ digits ∧ digits < 10 ^ (toString digits).length := by
  rw [length_toString]
  have written : 0 < (Nat.toDigits 10 digits).length := List.length_pos_of_ne_nil Nat.toDigits_ne_nil
  refine ⟨?_, (Nat.length_toDigits_le_iff (by decide) written).mp le_rfl⟩
  by_cases single : (Nat.toDigits 10 digits).length = 1
  · rw [single]
    omega
  · by_contra small
    have short := (Nat.length_toDigits_le_iff (b := 10) (k := (Nat.toDigits 10 digits).length - 1) (by decide)
      (by omega)).mpr (not_le.mp small)
    omega

/-- A decimal by the number of its digits. -/
theorem decimal_bounds {digits : Nat} (some : digits ≠ 0) (exponent : Int) :
    (10 : ℚ) ^ ((toString digits).length + exponent - 1) ≤ digits * 10 ^ exponent ∧
      (digits * 10 ^ exponent : ℚ) < 10 ^ ((toString digits).length + exponent : Int) := by
  have ten : (0 : ℚ) < 10 := by norm_num
  obtain ⟨least, most⟩ := length_digits some
  have written : 0 < (toString digits).length := by
    rw [length_toString]
    exact List.length_pos_of_ne_nil Nat.toDigits_ne_nil
  have parts : ((toString digits).length + exponent - 1 : Int) = ((toString digits).length - 1 : Nat) + exponent := by
    omega
  refine ⟨?_, ?_⟩
  · rw [parts, zpow_add₀ ten.ne', zpow_natCast]
    gcongr
    exact_mod_cast least
  · rw [zpow_add₀ ten.ne', zpow_natCast]
    gcongr
    exact_mod_cast most

/-- A decimal in the interval of a double is read as the double. -/
theorem ofDecimal_of_covers (finite : d.isFinite = true) (solid : d.significand ≠ 0) {digits : Nat} {exponent : Int}
    (covers : d.Covers (digits * 10 ^ exponent)) : ofDecimal d.isNegative digits exponent = d := by
  have some : digits ≠ 0 := by
    rintro rfl
    simpa using covers.pos solid
  obtain ⟨low, high⟩ := decimal_bounds some exponent
  have order {first second : Int} (less : (10 : ℚ) ^ first < 10 ^ second) : first < second :=
    (zpow_lt_zpow_iff_right₀ (by norm_num)).mp less
  have upper : (toString digits).length + exponent - 1 < 400 := order (low.trans_lt (covers.lt finite solid))
  have lower : -400 < (toString digits).length + exponent := order ((covers.gt solid).trans high)
  rw [ofDecimal, if_neg some, if_neg (by omega), if_neg (by omega)]
  split
  next whole =>
    apply nearest_of_covers finite solid (Nat.mul_pos (Nat.pos_of_ne_zero some) (Nat.pow_pos (by decide))) Nat.one_pos
    have same : ((digits * 10 ^ exponent.toNat : Nat) : ℚ) / (1 : Nat) = digits * 10 ^ exponent := by
      obtain ⟨count, rfl⟩ := Int.eq_ofNat_of_zero_le whole
      simp
    rwa [same]
  next negative =>
    apply nearest_of_covers finite solid (Nat.pos_of_ne_zero some) (Nat.pow_pos (by decide))
    have same : (digits : ℚ) / ((10 ^ exponent.natAbs : Nat) : ℚ) = digits * 10 ^ exponent := by
      obtain ⟨count, rfl⟩ := Int.eq_negSucc_of_lt_zero (not_le.mp negative)
      simp [div_eq_mul_inv, zpow_negSucc]
    rwa [same]

end Decimals

section Wholes

private theorem fraction_pos (d : Double) : 0 < d.fraction.2 := by
  unfold fraction
  split
  · exact Nat.two_pow_pos _
  · exact Nat.one_pos

private theorem fraction_eq (d : Double) : (d.fraction.1 : ℚ) / d.fraction.2 = d.size := by
  unfold fraction size
  split
  next negative =>
    rw [unit, two_zpow_of_nonpos (le_of_lt negative), div_eq_mul_inv]
    exact congrArg _ (by simp)
  next large =>
    rw [unit, two_zpow_of_nonneg (not_lt.mp large)]
    simp

variable {count : Nat}

/-- Doubles from the fifty-third power of two upwards cover no smaller whole number. -/
theorem Covers.scale_le_zero (solid : d.significand ≠ 0) (covers : d.Covers count) (small : count < 2 ^ 53) :
    d.scale ≤ 0 := by
  by_contra above
  have spaced : 2 ≤ d.unit := by
    have one : (2 : ℚ) ^ (1 : Int) ≤ 2 ^ d.scale := zpow_le_zpow_right₀ (by norm_num) (by omega)
    rwa [zpow_one] at one
  have below : (count : ℚ) ≤ 2 ^ 53 - 1 := by
    have less : count + 1 ≤ 2 ^ 53 := small
    have cast : (count : ℚ) + 1 ≤ 2 ^ 53 := by exact_mod_cast less
    linarith
  by_cases narrow : d.significand = 2 ^ 52
  · have near := covers.narrow solid ⟨narrow, by omega⟩
    nlinarith
  · have more : (2 : ℚ) ^ 52 + 1 ≤ d.significand := by
      have least := d.le_significand (by omega)
      exact_mod_cast Nat.lt_of_le_of_ne least (Ne.symm narrow)
    have near := (covers.near solid).1
    nlinarith

/-- Whole numbers below that are covered by no double but their own. -/
theorem Covers.size_eq (solid : d.significand ≠ 0) (covers : d.Covers count) (small : count < 2 ^ 53) :
    d.size = count := by
  have power : (0 : ℚ) < 2 ^ d.scale.natAbs := pow_pos two_pos _
  have unit : d.unit = (2 ^ d.scale.natAbs)⁻¹ := two_zpow_of_nonpos (covers.scale_le_zero solid small)
  obtain ⟨near, nearToo, _⟩ := covers.near solid
  rw [unit, ← div_eq_mul_inv, div_le_iff₀ power] at near
  rw [unit, ← div_eq_mul_inv, le_div_iff₀ power] at nearToo
  have same : d.significand = count * 2 ^ d.scale.natAbs := by
    have lower : 2 * d.significand ≤ 2 * (count * 2 ^ d.scale.natAbs) + 1 := by
      have less : (2 : ℚ) * d.significand ≤ 2 * (count * 2 ^ d.scale.natAbs) + 1 := by linarith
      exact_mod_cast less
    have upper : 2 * (count * 2 ^ d.scale.natAbs) ≤ 2 * d.significand + 1 := by
      have less : (2 : ℚ) * (count * 2 ^ d.scale.natAbs) ≤ 2 * d.significand + 1 := by linarith
      exact_mod_cast less
    omega
  rw [size, unit, same]
  push_cast
  rw [mul_assoc, mul_inv_cancel₀ power.ne', mul_one]

theorem whole?_of_size (finite : d.isFinite = true) (size : d.size = count) :
    d.whole? = some (if d.isNegative then -(count : Int) else count) := by
  have positive : (0 : ℚ) < d.fraction.2 := Nat.cast_pos.mpr d.fraction_pos
  have top : d.fraction.1 = count * d.fraction.2 := by
    have same := d.fraction_eq.trans size
    rw [div_eq_iff positive.ne'] at same
    exact_mod_cast same
  have even : d.fraction.1 % d.fraction.2 = 0 := by rw [top, Nat.mul_mod_left]
  have quotient : d.fraction.1 / d.fraction.2 = count := by rw [top, Nat.mul_div_cancel _ d.fraction_pos]
  have towardsZero : d.truncate = if d.isNegative then -(count : Int) else count := by
    simp only [truncate, quotient]
  simp only [whole?, finite, even, towardsZero, BEq.rfl, Bool.and_self, if_true]

end Wholes

end BoxTree.Double
