import Stepwise.Json.Basic

namespace Stepwise.Json

variable {v : Json} {n : Nat} {k : Int} {t : String}

theorem toUInt64?_eq_some_iff : v.toUInt64? = some n ↔ v = .ofNat n ∧ n < 0x10000000000000000 := by
  constructor
  · intro h
    match v with
    | .num (.int z) =>
      simp only [toUInt64?, Number.toUInt64?] at h
      split at h
      · next hz =>
        cases h
        obtain ⟨m, rfl⟩ := Int.eq_ofNat_of_zero_le hz.1
        have hm := hz.2
        rw [Int.toNat_natCast]
        exact ⟨rfl, by omega⟩
      · cases h
  · rintro ⟨rfl, hn⟩
    have hz : (0 : Int) ≤ n ∧ (n : Int) < 0x10000000000000000 := by omega
    simp only [ofNat, toUInt64?, Number.toUInt64?]
    rw [if_pos hz]
    rfl

theorem toInt64?_eq_some_iff :
    v.toInt64? = some k ↔ v = .ofInt k ∧ -0x8000000000000000 ≤ k ∧ k < 0x8000000000000000 := by
  constructor
  · intro h
    match v with
    | .num (.int z) =>
      simp only [toInt64?, Number.toInt64?] at h
      split at h
      · next hz =>
        cases h
        exact ⟨rfl, hz⟩
      · cases h
  · rintro ⟨rfl, hk⟩
    simp only [ofInt, toInt64?, Number.toInt64?]
    exact if_pos hk

theorem toStr?_eq_some_iff : v.toStr? = some t ↔ v = .str t := by
  cases v <;> simp [toStr?]

end Stepwise.Json
