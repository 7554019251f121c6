import Mathlib.Tactic.Linarith
import Mathlib.Tactic.Ring
import Stepwise.Proofs.Decimal.Difference

namespace Stepwise.Binary64

variable {a c d m : Nat} {e : Int} {negative : Bool}

-- Below the middle between two integers rounding stays at the lower one.
theorem roundHalfEven_le (hd : 0 < d) (h : 2 * a < (2 * m + 1) * d) : roundHalfEven a d ≤ m := by
  have hsplit := Nat.div_add_mod a d
  have hquotient : a / d < m + 1 := (Nat.div_lt_iff_lt_mul hd).2 (by linarith)
  have hround := roundHalfEven_bounds a d
  rcases Nat.lt_or_eq_of_le (Nat.le_of_lt_succ hquotient) with hlt | heq
  · omega
  · have hrest : 2 * (a % d) < d := by
      rw [heq] at hsplit
      linarith
    unfold roundHalfEven
    dsimp only
    rw [if_pos hrest, heq]

theorem nearest_eq (a d : Nat) :
    nearest a d = excess (a * 2 ^ unitExponent / d) * 0x10000000000000 +
      roundHalfEven (a * 2 ^ unitExponent) (d * 2 ^ excess (a * 2 ^ unitExponent / d)) := by
  rw [nearest, two_pow_unitExponent]
  rfl

-- What a quotient has behind its whole units can only raise its position.
theorem position_le_nearest (hd : 0 < d) :
    position (a * 2 ^ unitExponent / d) ≤ nearest a d := by
  rw [nearest_eq, position]
  generalize a * 2 ^ unitExponent = units
  have hwhole : units / d * d ≤ units := Nat.div_mul_le_self units d
  have hround := roundHalfEven_mono (2 ^ excess (units / d) * d) hwhole
  rw [roundHalfEven_scale hd, Nat.mul_comm _ d] at hround
  omega

theorem excess_pred_tooManyUnits : excess (tooManyUnits - 1) = 2045 := by decide +kernel

-- A quotient has a double exactly below the middle between the largest one and the power of two
-- beyond the doubles.
theorem nearest_lt_iff (hd : 0 < d) :
    nearest a d < 0x7FF0000000000000 ↔ a * 2 ^ unitExponent < tooManyUnits * d := by
  constructor
  · intro h
    have hposition := position_le_nearest (a := a) hd
    have hunits : a * 2 ^ unitExponent / d < tooManyUnits := position_lt_iff.1 (by omega)
    exact (Nat.div_lt_iff_lt_mul hd).1 hunits
  · intro h
    rw [nearest_eq]
    generalize a * 2 ^ unitExponent = units at h ⊢
    have hunits : units / d < tooManyUnits := (Nat.div_lt_iff_lt_mul hd).2 h
    have hexcess : excess (units / d) ≤ 2045 := by
      rw [← excess_pred_tooManyUnits]
      exact excess_mono (by omega)
    rcases Nat.lt_or_eq_of_le hexcess with hlt | heq
    · have hround := (roundHalfEven_bounds units (d * 2 ^ excess (units / d))).2
      rw [← Nat.div_div_eq_div_mul] at hround
      have hquotient := (quotient_bounds (units / d)).1
      omega
    · rw [heq]
      have hround : roundHalfEven units (d * 2 ^ 2045) ≤ 0x1FFFFFFFFFFFFF := by
        refine roundHalfEven_le (Nat.mul_pos hd (pow_pos Nat.two_pos 2045)) ?_
        calc 2 * units < 2 * (tooManyUnits * d) := by omega
          _ = (2 * 0x1FFFFFFFFFFFFF + 1) * (d * 2 ^ 2045) := by
            rw [tooManyUnits, pow_succ 2 2044]
            generalize 2 ^ 2044 = unit
            ring
      omega

theorem ofRatio?_isSome_iff (hd : 0 < d) :
    (ofRatio? negative a d).isSome ↔ (a : ℚ) / d < overflow := by
  have hd' : (0 : ℚ) < d := Nat.cast_pos.2 hd
  have hunit : (0 : ℚ) < 2 ^ unitExponent := pow_pos two_pos unitExponent
  rw [overflow_eq, div_lt_div_iff₀ hd' hunit]
  have hnearest := nearest_lt_iff (a := a) hd
  unfold ofRatio?
  dsimp only
  by_cases hlt : nearest a d < 0x7FF0000000000000
  · rw [dif_pos hlt]
    exact iff_of_true rfl (by exact_mod_cast hnearest.1 hlt)
  · rw [dif_neg hlt]
    exact iff_of_false (by simp) fun h => hlt (hnearest.2 (by exact_mod_cast h))

theorem one_le_overflow : 1 ≤ overflow := by
  have hdouble : (2 : ℚ) ^ 970 * 2 ≤ 2 ^ 1024 := by
    rw [← pow_succ]
    exact pow_le_pow_right₀ one_le_two (by decide)
  have hone : (1 : ℚ) ≤ 2 ^ 970 := one_le_pow₀ one_le_two
  unfold overflow
  generalize (2 : ℚ) ^ 970 = low at *
  generalize (2 : ℚ) ^ 1024 = high at *
  linarith

theorem overflow_le : overflow ≤ 10 ^ 309 := by
  have hpower : (2 : Nat) ^ 1024 ≤ 10 ^ 309 := by decide +kernel
  have hle : (2 : ℚ) ^ 1024 ≤ 10 ^ 309 := by exact_mod_cast hpower
  exact (sub_le_self _ (pow_nonneg zero_le_two 970)).trans hle

theorem ofDecimal?_isSome_iff :
    (ofDecimal? negative c e).isSome ↔ (c : ℚ) * 10 ^ e < overflow := by
  unfold ofDecimal?
  by_cases hzero : c = 0
  · simp [hzero, one_pos.trans_le one_le_overflow]
  rw [if_neg hzero]
  by_cases hwhole : 0 ≤ e
  · obtain ⟨n, rfl⟩ := Int.eq_ofNat_of_zero_le hwhole
    rw [if_pos hwhole]
    by_cases hlarge : 400 < (n : Int)
    · rw [if_pos hlarge]
      have hone : (1 : ℚ) ≤ c := by exact_mod_cast Nat.one_le_iff_ne_zero.2 hzero
      have hpower : (10 : ℚ) ^ 309 ≤ 10 ^ n := pow_le_pow_right₀ (by norm_num) (by omega)
      refine iff_of_false (by simp) (not_lt.2 ?_)
      calc overflow ≤ 10 ^ 309 := overflow_le
        _ ≤ 10 ^ n := hpower
        _ ≤ c * 10 ^ n := le_mul_of_one_le_left (by positivity) hone
        _ = c * 10 ^ (n : Int) := by rw [zpow_natCast]
    · rw [if_neg hlarge, ofRatio?_isSome_iff Nat.one_pos]
      simp
  · obtain ⟨n, hn⟩ := Int.exists_eq_neg_ofNat (Int.le_of_lt (not_le.1 hwhole))
    subst hn
    have hpower : 0 < Nat.pow 10 n := Nat.pow_pos (by decide)
    rw [if_neg hwhole, Int.natAbs_neg, Int.natAbs_natCast, ofRatio?_isSome_iff hpower]
    simp [div_eq_mul_inv]

end Stepwise.Binary64
