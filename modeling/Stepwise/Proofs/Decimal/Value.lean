import Mathlib.Algebra.Order.Field.Basic
import Mathlib.Data.Rat.Cast.Order
import Stepwise.Json.Basic
import Stepwise.Proofs.Decimal.Rounding

namespace Stepwise.Binary64

variable {k n : Nat} {x y : Binary64} {z : Int}

-- The smallest positive double is this power of a half.
def unitExponent : Nat := 1074

theorem two_pow_unitExponent : Nat.pow 2 1074 = 2 ^ unitExponent := by decide +kernel

theorem nearest_one (n : Nat) : nearest n 1 = position (n * 2 ^ unitExponent) := by
  unfold nearest position excess
  dsimp only
  rw [Nat.div_one, Nat.one_mul, two_pow_unitExponent]
  rfl

theorem position_scaled_lt (hn : n ≤ 0x10000000000000000) (hk : k ≤ 1074) :
    position (n * 2 ^ k) < 0x7FF0000000000000 := by
  have hle := position_le (n * 2 ^ k)
  by_cases hzero : n = 0
  · subst hzero
    rw [Nat.zero_mul, position_of_lt (by omega)]
    omega
  · have hlog : n.log2 < 65 := (Nat.log2_lt hzero).mpr (by omega)
    have hscaled : (n * 2 ^ k).log2 = n.log2 + k := log2_mul_two_pow hzero
    have hexcess : excess (n * 2 ^ k) ≤ 1086 := by
      unfold excess
      omega
    omega

-- No integer of 64 binary digits is too large for a double.
theorem nearest_one_lt (hn : n ≤ 0x10000000000000000) : nearest n 1 < 0x7FF0000000000000 := by
  rw [nearest_one]
  exact position_scaled_lt hn (Nat.le_refl unitExponent)

-- An integer rounded to 53 binary digits, a half to the even neighbour.
def roundedInt (z : Int) : Int := if z < 0 then -(rounded z.natAbs : Int) else rounded z.natAbs

theorem roundedInt_mono {a b : Int} (h : a ≤ b) : roundedInt a ≤ roundedInt b := by
  unfold roundedInt
  by_cases ha : a < 0
  · by_cases hb : b < 0
    · have hround := rounded_mono (a := b.natAbs) (b := a.natAbs) (by omega)
      rw [if_pos ha, if_pos hb]
      omega
    · rw [if_pos ha, if_neg hb]
      omega
  · have hround := rounded_mono (a := a.natAbs) (b := b.natAbs) (by omega)
    rw [if_neg ha, if_neg (by omega)]
    omega

theorem roundedInt_of_natAbs_eq (h : rounded z.natAbs = z.natAbs) : roundedInt z = z := by
  unfold roundedInt
  split <;> omega

theorem roundedInt_of_natAbs_le (hz : z.natAbs ≤ 0x20000000000000) : roundedInt z = z := by
  apply roundedInt_of_natAbs_eq
  by_cases hlast : z.natAbs = 0x20000000000000
  · rw [hlast]
    exact rounded_of_dvd (by decide)
  · exact rounded_of_lt (by omega)

-- The value of a double.
def value (x : Binary64) : ℚ := x.signedUnits / 2 ^ unitExponent

theorem units_eq (x : Binary64) : x.units = unitsOf x.magnitude := rfl

-- Positions are in the order of the values.
theorem rank_lt_iff : x.rank < y.rank ↔ x.signedUnits < y.signedUnits := by
  have hxy := strictMono_unitsOf.lt_iff_lt (a := x.magnitude) (b := y.magnitude)
  have hyx := strictMono_unitsOf.lt_iff_lt (a := y.magnitude) (b := x.magnitude)
  have hx := strictMono_unitsOf.lt_iff_lt (a := 0) (b := x.magnitude)
  have hy := strictMono_unitsOf.lt_iff_lt (a := 0) (b := y.magnitude)
  rw [unitsOf_of_lt (m := 0) (by omega)] at hx hy
  unfold rank signedUnits
  rw [units_eq, units_eq]
  split <;> split <;> omega

theorem value_lt_iff : x.value < y.value ↔ x.rank < y.rank := by
  have hpos : (0 : ℚ) < 2 ^ unitExponent := pow_pos two_pos unitExponent
  rw [rank_lt_iff, value, value, div_lt_div_iff_of_pos_right hpos, Int.cast_lt]

theorem value_eq_iff : x.value = y.value ↔ x.rank = y.rank := by
  have hxy := value_lt_iff (x := x) (y := y)
  have hyx := value_lt_iff (x := y) (y := x)
  rw [le_antisymm_iff, le_antisymm_iff, ← not_lt, ← not_lt, hxy, hyx, not_lt, not_lt]

theorem ofInt_of_nearest (h : nearest z.natAbs 1 < 0x7FF0000000000000) :
    ofInt z = ⟨z < 0, nearest z.natAbs 1, h⟩ := by
  rw [ofInt, ofRatio?]
  dsimp only
  rw [dif_pos h, Option.getD_some]

theorem value_eq_intCast_iff : x.value = z ↔ x.signedUnits = z * (2 ^ unitExponent : Nat) := by
  have hpos : (2 : ℚ) ^ unitExponent ≠ 0 := pow_ne_zero unitExponent two_ne_zero
  rw [value, div_eq_iff hpos]
  exact_mod_cast Iff.rfl

-- The double of an integer is the integer rounded, where it is no larger than the doubles are.
theorem value_ofInt_of_nearest (h : nearest z.natAbs 1 < 0x7FF0000000000000) :
    (ofInt z).value = roundedInt z := by
  rw [value_eq_intCast_iff, ofInt_of_nearest h]
  unfold signedUnits roundedInt
  simp only [units_eq, nearest_one, unitsOf_position, rounded_mul_two_pow]
  by_cases hz : z < 0
  · rw [if_pos (decide_eq_true hz), if_pos hz, Int.natCast_mul, neg_mul]
  · rw [if_neg (by simpa using hz), if_neg hz, Int.natCast_mul]

theorem value_ofInt (hz : z.natAbs ≤ 0x10000000000000000) : (ofInt z).value = roundedInt z :=
  value_ofInt_of_nearest (nearest_one_lt hz)

theorem natAbs_signedUnits (x : Binary64) : x.signedUnits.natAbs = unitsOf x.magnitude := by
  unfold signedUnits
  rw [units_eq]
  split <;> omega

-- An integer that is the value of some double is the value of its own.
theorem value_ofInt_of_eq (h : x.value = z) : (ofInt z).value = z := by
  have hunits : z.natAbs * 2 ^ unitExponent = unitsOf x.magnitude := by
    rw [← natAbs_signedUnits, value_eq_intCast_iff.mp h, Int.natAbs_mul, Int.natAbs_natCast]
  have hnearest : nearest z.natAbs 1 < 0x7FF0000000000000 := by
    rw [nearest_one, hunits, position_unitsOf]
    exact x.finite
  have hexact : rounded z.natAbs = z.natAbs := by
    apply Nat.eq_of_mul_eq_mul_right (Nat.two_pow_pos unitExponent)
    rw [← rounded_mul_two_pow, hunits, rounded_unitsOf]
  rw [value_ofInt_of_nearest hnearest, roundedInt_of_natAbs_eq hexact]

end Stepwise.Binary64

namespace Stepwise.Number

-- The value of a number, however it is written.
def value : Number → ℚ
  | .int z => z
  | .float x => x.value

-- Numbers of one value have doubles of one value, since an integer that some double equals is not
-- rounded.
theorem value_toBinary64 {n m : Number} (h : n.value = m.value) :
    n.toBinary64.value = m.toBinary64.value := by
  cases n with
  | int a =>
    cases m with
    | int b =>
      have hab : a = b := by
        simp only [value] at h
        exact_mod_cast h
      rw [hab]
    | float y => exact (Binary64.value_ofInt_of_eq (z := a) h.symm).trans h
  | float x =>
    cases m with
    | int b => exact h.trans (Binary64.value_ofInt_of_eq (z := b) h).symm
    | float y => exact h

end Stepwise.Number
