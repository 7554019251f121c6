import Mathlib.Algebra.Order.Field.Basic
import Mathlib.Algebra.Order.Ring.Int
import Mathlib.Tactic.NormNum
import Stepwise.Proofs.Decimal.Value

namespace Stepwise.Binary64

variable {n : Nat} {x y : Binary64}

-- In units of the smallest positive double, half a unit in the last place above the largest one.
def tooManyUnits : Nat := 0x3FFFFFFFFFFFFF * 2 ^ 2044

theorem position_tooManyUnits : position tooManyUnits = 0x7FF0000000000000 := by decide +kernel

theorem position_pred_tooManyUnits : position (tooManyUnits - 1) = 0x7FEFFFFFFFFFFFFF := by
  decide +kernel

-- A half goes to the even neighbour, which at this place is beyond the doubles.
theorem position_lt_iff : position n < 0x7FF0000000000000 ↔ n < tooManyUnits := by
  constructor
  · intro h
    by_contra hn
    have hmono := position_mono (a := tooManyUnits) (b := n) (by omega)
    rw [position_tooManyUnits] at hmono
    omega
  · intro h
    have hmono := position_mono (a := n) (b := tooManyUnits - 1) (by omega)
    rw [position_pred_tooManyUnits] at hmono
    omega

theorem nearest_unit (n : Nat) : nearest n (Nat.pow 2 1074) = position n := by
  have hpos : 0 < 2 ^ unitExponent := Nat.two_pow_pos unitExponent
  rw [nearest, two_pow_unitExponent, Nat.mul_div_cancel _ hpos, Nat.mul_comm (2 ^ unitExponent)]
  exact congrArg _ (roundHalfEven_scale hpos n (2 ^ excess n))

theorem sub?_eq_none_iff_units :
    x.sub? y = none ↔ tooManyUnits ≤ (x.signedUnits - y.signedUnits).natAbs := by
  have hpos : 0 < tooManyUnits := by decide +kernel
  unfold sub? ofRatio?
  dsimp only
  rw [nearest_unit]
  by_cases hzero : x.signedUnits - y.signedUnits = 0
  · rw [if_pos hzero, hzero]
    simp
    omega
  · rw [if_neg hzero]
    by_cases hlt : position (x.signedUnits - y.signedUnits).natAbs < 0x7FF0000000000000
    · rw [dif_pos hlt]
      have hfew := position_lt_iff.1 hlt
      simp
      omega
    · rw [dif_neg hlt]
      have hmany := mt position_lt_iff.2 hlt
      simp
      omega

-- From here on a number is nearer to the power of two beyond the doubles than to the largest one, or
-- as near.
def overflow : ℚ := 2 ^ 1024 - 2 ^ 970

theorem overflow_eq : overflow = (tooManyUnits : ℚ) / 2 ^ unitExponent := by
  have hpos : (2 : ℚ) ^ unitExponent ≠ 0 := pow_ne_zero unitExponent two_ne_zero
  have hfactor : ((0x3FFFFFFFFFFFFF : Nat) : ℚ) = 2 ^ 54 - 1 := by norm_num
  have hunits : (tooManyUnits : ℚ) = (2 ^ 54 - 1) * 2 ^ 2044 := by
    rw [tooManyUnits, Nat.cast_mul, hfactor, Nat.cast_pow, Nat.cast_ofNat]
  rw [eq_div_iff hpos, hunits, overflow, unitExponent, sub_mul, ← pow_add, ← pow_add, sub_mul,
    ← pow_add, one_mul]

-- The difference of two doubles is too large for a double.
theorem sub?_eq_none_iff : x.sub? y = none ↔ overflow ≤ |x.value - y.value| := by
  have hpos : (0 : ℚ) < 2 ^ unitExponent := pow_pos two_pos unitExponent
  rw [sub?_eq_none_iff_units, value, value, ← sub_div, abs_div, abs_of_pos hpos, overflow_eq,
    div_le_div_iff_of_pos_right hpos, ← Int.cast_sub, ← Int.cast_abs, Int.abs_eq_natAbs]
  exact_mod_cast Iff.rfl

end Stepwise.Binary64
