import Stepwise.Proofs.Decimal.Value
import Stepwise.Proofs.Predicate.Order

namespace Stepwise

open Binary64 (roundedInt)

variable {a b : Int} {op : Comparison}

-- An integer of 64 bits, with a sign or without.
def Number.Storable (z : Int) : Prop := -0x8000000000000000 ≤ z ∧ z < 0x10000000000000000

namespace Comparison

-- What an operator says of two integers.
def Relates : Comparison → Int → Int → Prop
  | eq, a, b => a = b
  | ne, a, b => a ≠ b
  | lt, a, b => a < b
  | le, a, b => a ≤ b
  | gt, a, b => b < a
  | ge, a, b => b ≤ a
  | contains, _, _ => False

-- It is settled by which of the two is less.
theorem relates_congr {x y : Int} (hlt : a < b ↔ x < y) (hgt : b < a ↔ y < x) :
    op.Relates a b ↔ op.Relates x y := by
  cases op <;> simp only [Relates] <;> omega

theorem relates_self_congr (op : Comparison) (a b : Int) : op.Relates a a ↔ op.Relates b b :=
  relates_congr (by omega) (by omega)

theorem test_num_iff {n m : Number} :
    op.test (.num n) (.num m) = true ↔ op.Relates n.toBinary64.rank m.toBinary64.rank := by
  have hn : (Json.num n).IsNumber := ⟨n, rfl⟩
  have hm : (Json.num m).IsNumber := ⟨m, rfl⟩
  have heq := (Json.measuredBy_numberRank.test_eq_iff hn (y := .num m)).trans (and_iff_right hm)
  cases op with
  | eq => exact heq
  | ne =>
    have hne : ne.test (.num n) (.num m) = !eq.test (.num n) (.num m) := rfl
    rw [hne, Bool.not_eq_true', ← Bool.not_eq_true, heq]
    exact Iff.rfl
  | lt => exact Json.measuredBy_numberRank.test_lt_iff hn hm
  | le => exact Json.measuredBy_numberRank.test_le_iff hn hm
  | gt => exact Json.measuredBy_numberRank.test_gt_iff hn hm
  | ge => exact Json.measuredBy_numberRank.test_ge_iff hn hm
  | contains => exact iff_of_false Bool.false_ne_true id

theorem value_toBinary64_int (h : Number.Storable a) :
    (Number.int a).toBinary64.value = roundedInt a := by
  unfold Number.Storable at h
  apply Binary64.value_ofInt
  omega

theorem rank_int_lt_iff (ha : Number.Storable a) (hb : Number.Storable b) :
    (Number.int a).toBinary64.rank < (Number.int b).toBinary64.rank ↔
      roundedInt a < roundedInt b := by
  rw [← Binary64.value_lt_iff, value_toBinary64_int ha, value_toBinary64_int hb, Int.cast_lt]

-- Integers are compared as integers, once each is rounded.
theorem test_ofInt_iff (ha : Number.Storable a) (hb : Number.Storable b) :
    op.test (.ofInt a) (.ofInt b) = true ↔ op.Relates (roundedInt a) (roundedInt b) :=
  test_num_iff.trans (relates_congr (rank_int_lt_iff ha hb) (rank_int_lt_iff hb ha))

theorem roundedInt_lt_iff (h : roundedInt a ≠ roundedInt b) :
    roundedInt a < roundedInt b ↔ a < b := by
  constructor
  · intro hlt
    by_contra hge
    have hle := Binary64.roundedInt_mono (a := b) (b := a) (by omega)
    omega
  · intro hlt
    have hle := Binary64.roundedInt_mono hlt.le
    omega

-- Rounding changes no answer unless it makes two integers one.
theorem relates_roundedInt_iff :
    (∀ op : Comparison, op.Relates (roundedInt a) (roundedInt b) ↔ op.Relates a b) ↔
      (a = b ∨ roundedInt a ≠ roundedInt b) := by
  constructor
  · intro h
    by_cases hround : roundedInt a = roundedInt b
    · exact .inl ((h eq).mp hround)
    · exact .inr hround
  · rintro (rfl | hround) op
    · exact relates_self_congr op (roundedInt a) a
    · exact relates_congr (roundedInt_lt_iff hround) (roundedInt_lt_iff hround.symm)

end Comparison

end Stepwise
