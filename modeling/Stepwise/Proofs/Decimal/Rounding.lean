import Mathlib.Algebra.Order.Ring.Nat
import Mathlib.Order.Monotone.Basic
import Stepwise.Decimal.Binary64

namespace Stepwise.Binary64

variable {a b d k m n q s : Nat}

theorem roundHalfEven_bounds (a d : Nat) :
    a / d ≤ roundHalfEven a d ∧ roundHalfEven a d ≤ a / d + 1 := by
  unfold roundHalfEven
  dsimp only
  split
  · omega
  · split <;> omega

theorem roundHalfEven_mono (d : Nat) (h : a ≤ b) : roundHalfEven a d ≤ roundHalfEven b d := by
  have ha := roundHalfEven_bounds a d
  have hb := roundHalfEven_bounds b d
  have hquotient : a / d ≤ b / d := Nat.div_le_div_right h
  by_cases heq : a / d = b / d
  · have hrest : a % d ≤ b % d := by
      have hadiv := Nat.div_add_mod a d
      have hbdiv := Nat.div_add_mod b d
      rw [heq] at hadiv
      omega
    unfold roundHalfEven
    dsimp only
    rw [heq]
    split_ifs <;> omega
  · omega

theorem roundHalfEven_mul (hd : 0 < d) (q : Nat) : roundHalfEven (q * d) d = q := by
  unfold roundHalfEven
  dsimp only
  rw [Nat.mul_mod_left, Nat.mul_div_cancel q hd, Nat.mul_zero, if_pos hd]

theorem roundHalfEven_scale (hk : 0 < k) (a d : Nat) :
    roundHalfEven (a * k) (d * k) = roundHalfEven a d := by
  have hrest : 2 * (a % d * k) = 2 * (a % d) * k := (Nat.mul_assoc 2 (a % d) k).symm
  unfold roundHalfEven
  dsimp only
  rw [Nat.mul_div_mul_right _ _ hk, Nat.mul_mod_mul_right, hrest]
  simp only [Nat.mul_lt_mul_right hk]

-- How many binary digits a number has beyond 53.
def excess (n : Nat) : Nat := n.log2 - 52

-- A number rounded to 53 binary digits, a half to the even neighbour.
def rounded (n : Nat) : Nat := roundHalfEven n (2 ^ excess n) * 2 ^ excess n

theorem excess_of_lt (hn : n < 0x20000000000000) : excess n = 0 := by
  by_cases h : n = 0
  · subst h
    rfl
  · have hlog : n.log2 < 53 := (Nat.log2_lt h).mpr hn
    unfold excess
    omega

theorem rounded_of_dvd (h : 2 ^ excess n ∣ n) : rounded n = n := by
  obtain ⟨q, hq⟩ := h
  have hround : roundHalfEven n (2 ^ excess n) = q := by
    have hexact := roundHalfEven_mul (Nat.two_pow_pos (excess n)) q
    rwa [Nat.mul_comm, ← hq] at hexact
  rw [rounded, hround, Nat.mul_comm, ← hq]

theorem rounded_of_lt (hn : n < 0x20000000000000) : rounded n = n := by
  apply rounded_of_dvd
  rw [excess_of_lt hn, pow_zero]
  exact Nat.one_dvd n

theorem excess_mono (h : a ≤ b) : excess a ≤ excess b := by
  by_cases ha : a = 0
  · subst ha
    exact Nat.zero_le _
  · have hb : b ≠ 0 := by omega
    have hlog : a.log2 ≤ b.log2 := (Nat.le_log2 hb).mpr ((Nat.log2_self_le ha).trans h)
    unfold excess
    omega

-- A quotient with all 53 digits, for a number that has as many.
theorem quotient_bounds (n : Nat) :
    n / 2 ^ excess n < 0x20000000000000 ∧
      (0x10000000000000 ≤ n → 0x10000000000000 ≤ n / 2 ^ excess n) := by
  by_cases hn : n < 0x10000000000000
  · rw [excess_of_lt (by omega), pow_zero, Nat.div_one]
    omega
  have hne : n ≠ 0 := by omega
  have hlog : 52 ≤ n.log2 := (Nat.le_log2 hne).mpr (by omega)
  have hsplit : n.log2 = 52 + excess n := by
    unfold excess
    omega
  have hle := Nat.log2_self_le hne
  have hlt := Nat.lt_log2_self (n := n)
  rw [hsplit, pow_add] at hle
  rw [hsplit, Nat.add_right_comm, pow_add] at hlt
  rw [Nat.le_div_iff_mul_le (Nat.two_pow_pos _), Nat.div_lt_iff_lt_mul (Nat.two_pow_pos _)]
  exact ⟨hlt, fun _ => hle⟩

theorem log2_mul_two_pow (hn : n ≠ 0) : (n * 2 ^ k).log2 = n.log2 + k := by
  induction k with
  | zero => rw [pow_zero, Nat.mul_one, Nat.add_zero]
  | succ k ih =>
    have hne : n * 2 ^ k ≠ 0 := Nat.mul_ne_zero hn (Nat.two_pow_pos k).ne'
    rw [pow_succ', Nat.mul_left_comm, Nat.log2_two_mul hne, ih, Nat.add_assoc]

-- Digits are counted from the first one, so a factor changes where a number is cut and not how.
theorem rounded_mul_two_pow (n k : Nat) : rounded (n * 2 ^ k) = rounded n * 2 ^ k := by
  by_cases hn : n = 0
  · subst hn
    rw [Nat.zero_mul, rounded_of_lt (by omega), Nat.zero_mul]
  have hlog : (n * 2 ^ k).log2 = n.log2 + k := log2_mul_two_pow hn
  by_cases hlarge : 52 ≤ n.log2
  · have hexcess : excess (n * 2 ^ k) = excess n + k := by
      unfold excess
      omega
    rw [rounded, hexcess, pow_add, roundHalfEven_scale (Nat.two_pow_pos k), ← Nat.mul_assoc, rounded]
  · have hlt : n < 2 ^ 52 := (Nat.log2_lt hn).mp (by omega)
    have hexcess : excess (n * 2 ^ k) ≤ k := by
      unfold excess
      omega
    have hdvd : 2 ^ excess (n * 2 ^ k) ∣ n * 2 ^ k := (pow_dvd_pow 2 hexcess).mul_left n
    rw [rounded_of_dvd hdvd, rounded_of_lt (by omega)]

-- The size of the double at a position, in units of the smallest positive double.
def unitsOf (magnitude : Nat) : Nat := significand magnitude * 2 ^ shift magnitude

theorem unitsOf_of_lt (hm : m < 0x20000000000000) : unitsOf m = m := by
  have hshift : shift m = 0 := by
    unfold shift
    omega
  have hsignificand : significand m = m := by
    unfold significand
    by_cases h : m < 0x10000000000000
    · rw [if_pos h]
    · rw [if_neg h]
      omega
  rw [unitsOf, hshift, hsignificand, pow_zero, mul_one]

-- A significand of all 53 digits, and the one that carries to the next exponent.
theorem unitsOf_add (hq : 0x10000000000000 ≤ q) (hq' : q ≤ 0x20000000000000) :
    unitsOf (s * 0x10000000000000 + q) = q * 2 ^ s := by
  have hlarge : ¬ s * 0x10000000000000 + q < 0x10000000000000 := by omega
  rw [unitsOf, significand, if_neg hlarge, shift]
  by_cases hcarry : q = 0x20000000000000
  · subst hcarry
    have hshift : (s * 0x10000000000000 + 0x20000000000000) / 0x10000000000000 - 1 = s + 1 := by
      omega
    have hrest : (s * 0x10000000000000 + 0x20000000000000) % 0x10000000000000 = 0 := by omega
    rw [hshift, hrest, pow_succ]
    omega
  · have hshift : (s * 0x10000000000000 + q) / 0x10000000000000 - 1 = s := by omega
    have hrest : 0x10000000000000 + (s * 0x10000000000000 + q) % 0x10000000000000 = q := by omega
    rw [hshift, hrest]

theorem strictMono_unitsOf : StrictMono unitsOf := by
  apply strictMono_nat_of_lt_succ
  intro m
  by_cases hm : m < 0x10000000000000
  · rw [unitsOf_of_lt (by omega), unitsOf_of_lt (by omega)]
    omega
  · obtain ⟨s, q, rfl, hq, hq'⟩ : ∃ s q, m = s * 0x10000000000000 + q ∧
        0x10000000000000 ≤ q ∧ q < 0x20000000000000 :=
      ⟨m / 0x10000000000000 - 1, 0x10000000000000 + m % 0x10000000000000, by omega, by omega,
        by omega⟩
    rw [Nat.add_assoc, unitsOf_add hq (by omega), unitsOf_add (by omega) (by omega)]
    exact Nat.mul_lt_mul_of_pos_right (Nat.lt_succ_self q) (Nat.two_pow_pos s)

-- The position of the double nearest to a number of units.
def position (n : Nat) : Nat := excess n * 0x10000000000000 + roundHalfEven n (2 ^ excess n)

theorem position_of_lt (hn : n < 0x20000000000000) : position n = n := by
  rw [position, excess_of_lt hn, pow_zero, Nat.zero_mul, Nat.zero_add]
  simpa using roundHalfEven_mul Nat.one_pos n

theorem position_le (n : Nat) : position n ≤ excess n * 0x10000000000000 + 0x20000000000000 := by
  have hquotient := quotient_bounds n
  have hround := roundHalfEven_bounds n (2 ^ excess n)
  unfold position
  omega

theorem le_position (hn : 0x10000000000000 ≤ n) :
    excess n * 0x10000000000000 + 0x10000000000000 ≤ position n := by
  have hquotient := quotient_bounds n
  have hround := roundHalfEven_bounds n (2 ^ excess n)
  unfold position
  omega

theorem unitsOf_position (n : Nat) : unitsOf (position n) = rounded n := by
  by_cases hn : n < 0x10000000000000
  · rw [position_of_lt (by omega), rounded_of_lt (by omega), unitsOf_of_lt (by omega)]
  · have hquotient := quotient_bounds n
    have hround := roundHalfEven_bounds n (2 ^ excess n)
    apply unitsOf_add
    · omega
    · omega

theorem rounded_unitsOf (m : Nat) : rounded (unitsOf m) = unitsOf m := by
  have hsignificand : significand m < 0x20000000000000 := by
    unfold significand
    split <;> omega
  rw [unitsOf, rounded_mul_two_pow, rounded_of_lt hsignificand]

theorem position_unitsOf (m : Nat) : position (unitsOf m) = m := by
  apply strictMono_unitsOf.injective
  rw [unitsOf_position, rounded_unitsOf]

theorem position_mono (h : a ≤ b) : position a ≤ position b := by
  by_cases heq : excess a = excess b
  · have hround := roundHalfEven_mono (2 ^ excess b) h
    unfold position
    rw [heq]
    omega
  · have hexcess := excess_mono h
    have hlarge : 0x20000000000000 ≤ b := by
      by_contra hsmall
      have hzero : excess b = 0 := excess_of_lt (by omega)
      omega
    have ha := position_le a
    have hb := le_position (n := b) (by omega)
    omega

theorem rounded_mono (h : a ≤ b) : rounded a ≤ rounded b := by
  rw [← unitsOf_position, ← unitsOf_position]
  exact strictMono_unitsOf.monotone (position_mono h)

end Stepwise.Binary64
