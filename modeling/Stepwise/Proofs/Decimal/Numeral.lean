import Mathlib.Data.List.TakeWhile
import Stepwise.Decimal.Text
import Stepwise.Proofs.Decimal.Overflow
import Stepwise.Proofs.Text.Digits

namespace Stepwise.Decimal

open Text (ne_of_isDigit takeWhile_append_of_stop dropWhile_append_of_stop)

variable {cs body sign digits tail whole part : List Char} {negative : Bool} {e : Int} {n : Numeral}
  {x : Binary64}

-- The number that a numeral stands for.
def Numeral.value (n : Numeral) : ℚ :=
  (if n.negative then -1 else 1) * n.coefficient * 10 ^ n.scale

inductive Sign : List Char → Bool → Prop
  | absent : Sign [] false
  | plus : Sign ['+'] false
  | minus : Sign ['-'] true

inductive Exponent : List Char → Int → Prop
  | absent : Exponent [] 0
  | power {mark : Char} {sign digits : List Char} {negative : Bool} (hmark : mark = 'e' ∨ mark = 'E')
    (hsign : Sign sign negative) (hne : digits ≠ []) (hdigits : ∀ c ∈ digits, c.isDigit = true) :
    Exponent (mark :: (sign ++ digits))
      (if negative then -(digitsValue digits : Int) else digitsValue digits)

-- The texts that spell a decimal number: there may be a sign, a point and an exponent, and there
-- must be a digit before or after the point.
inductive Spells : List Char → Numeral → Prop
  | whole {sign whole tail : List Char} {negative : Bool} {e : Int} (hsign : Sign sign negative)
    (hne : whole ≠ []) (hwhole : ∀ c ∈ whole, c.isDigit = true) (htail : Exponent tail e) :
    Spells (sign ++ (whole ++ tail)) ⟨negative, digitsValue whole, e⟩
  | point {sign whole part tail : List Char} {negative : Bool} {e : Int}
    (hsign : Sign sign negative) (hne : whole ≠ [] ∨ part ≠ [])
    (hwhole : ∀ c ∈ whole, c.isDigit = true) (hpart : ∀ c ∈ part, c.isDigit = true)
    (htail : Exponent tail e) :
    Spells (sign ++ (whole ++ '.' :: (part ++ tail)))
      ⟨negative, digitsValue (whole ++ part), e - part.length⟩

theorem exists_sign (cs : List Char) :
    ∃ sign, Sign sign (splitSign cs).1 ∧ cs = sign ++ (splitSign cs).2 := by
  unfold splitSign
  split
  · exact ⟨_, .minus, rfl⟩
  · exact ⟨_, .plus, rfl⟩
  · exact ⟨_, .absent, rfl⟩

theorem splitSign_append (hsign : Sign sign negative)
    (hbody : ∀ c ∈ body.head?, c ≠ '-' ∧ c ≠ '+') : splitSign (sign ++ body) = (negative, body) := by
  cases hsign with
  | plus | minus => rfl
  | absent =>
    cases body with
    | nil => rfl
    | cons c body =>
      obtain ⟨hminus, hplus⟩ := hbody c rfl
      unfold splitSign
      split
      · next heq => exact absurd (List.cons.inj heq).1 hminus
      · next heq => exact absurd (List.cons.inj heq).1 hplus
      · rfl

theorem ne_sign_of_isDigit {c : Char} (hc : c.isDigit = true) : c ≠ '-' ∧ c ≠ '+' :=
  ⟨ne_of_isDigit hc (by decide), ne_of_isDigit hc (by decide)⟩

theorem exponentOf?_eq_some_iff : exponentOf? cs = some e ↔ Exponent cs e := by
  constructor
  · intro h
    cases cs with
    | nil =>
      cases h
      exact .absent
    | cons mark rest =>
      obtain ⟨sign, hsign, hrest⟩ := exists_sign rest
      unfold exponentOf? at h
      dsimp only at h
      generalize splitSign rest = parts at *
      subst hrest
      split at h
      · next hmark =>
        split at h
        · cases h
        · next hdigits =>
          cases h
          simp only [Bool.or_eq_true, List.isEmpty_iff, Bool.not_eq_true', not_or,
            Bool.not_eq_false, List.all_eq_true] at hdigits
          exact .power hmark hsign hdigits.1 hdigits.2
      · cases h
  · intro h
    cases h with
    | absent => rfl
    | @power mark sign digits negative hmark hsign hne hdigits =>
      have hhead : ∀ c ∈ digits.head?, c ≠ '-' ∧ c ≠ '+' := fun c hc =>
        ne_sign_of_isDigit (hdigits c (List.mem_of_mem_head? hc))
      simpa [exponentOf?, hmark, splitSign_append hsign hhead, hne] using hdigits

theorem Exponent.head (h : Exponent tail e) : ∀ c ∈ tail.head?, c = 'e' ∨ c = 'E' := by
  cases h with
  | absent => simp
  | power hmark =>
    rintro c ⟨⟩
    exact hmark

-- So digits end at one, and it is no sign and no point.
theorem Exponent.stops (h : Exponent tail e) :
    ∀ c ∈ tail.head?, c.isDigit = false ∧ c ≠ '.' ∧ c ≠ '-' ∧ c ≠ '+' := by
  intro c hc
  rcases h.head c hc with rfl | rfl <;> decide

theorem splitPoint_of_head (h : ∀ c ∈ tail.head?, c ≠ '.') : splitPoint tail = ([], tail) := by
  unfold splitPoint
  split
  · exact absurd rfl (h '.' rfl)
  · rfl

theorem splitPoint_append (hpart : ∀ c ∈ part, c.isDigit = true)
    (hstop : ∀ c ∈ tail.head?, c.isDigit = false) :
    splitPoint ('.' :: (part ++ tail)) = (part, tail) := by
  rw [splitPoint, takeWhile_append_of_stop hpart hstop, dropWhile_append_of_stop hpart hstop]

-- The numeral of a text that has been cut at its sign, its digits and its point.
theorem numeral?_append (hsign : Sign sign negative) (hwhole : ∀ c ∈ whole, c.isDigit = true)
    (hhead : ∀ c ∈ body.head?, c.isDigit = false ∧ c ≠ '-' ∧ c ≠ '+') :
    numeral? (sign ++ (whole ++ body)) =
      if whole.isEmpty && (splitPoint body).1.isEmpty then none
      else (exponentOf? (splitPoint body).2).map fun exponent =>
        ⟨negative, digitsValue (whole ++ (splitPoint body).1),
          exponent - (splitPoint body).1.length⟩ := by
  have hsplit : splitSign (sign ++ (whole ++ body)) = (negative, whole ++ body) := by
    refine splitSign_append hsign fun c hc => ?_
    cases whole with
    | nil => exact (hhead c hc).2
    | cons d whole =>
      cases hc
      exact ne_sign_of_isDigit (hwhole c List.mem_cons_self)
  have hstop := fun c hc => (hhead c hc).1
  unfold numeral?
  rw [hsplit]
  dsimp only
  rw [takeWhile_append_of_stop hwhole hstop, dropWhile_append_of_stop hwhole hstop]

theorem spells_of_numeral? (h : numeral? cs = some n) : Spells cs n := by
  obtain ⟨sign, hsign, hcs⟩ := exists_sign cs
  unfold numeral? at h
  dsimp only at h
  generalize splitSign cs = parts at *
  obtain ⟨negative, text⟩ := parts
  dsimp only at h hsign hcs
  have hwhole : ∀ c ∈ text.takeWhile Char.isDigit, c.isDigit = true :=
    fun c hc => List.mem_takeWhile_imp hc
  rw [← List.takeWhile_append_dropWhile (p := Char.isDigit) (l := text)] at hcs
  generalize text.takeWhile Char.isDigit = whole at *
  generalize text.dropWhile Char.isDigit = body at *
  subst hcs
  split at h
  · cases h
  · next hdigits =>
    obtain ⟨e, he, rfl⟩ := Option.map_eq_some_iff.1 h
    rw [exponentOf?_eq_some_iff] at he
    simp only [Bool.and_eq_true, List.isEmpty_iff, not_and_or] at hdigits
    by_cases hpoint : ∃ rest, body = '.' :: rest
    · obtain ⟨rest, rfl⟩ := hpoint
      have hpart : ∀ c ∈ rest.takeWhile Char.isDigit, c.isDigit = true :=
        fun c hc => List.mem_takeWhile_imp hc
      have hrest : (splitPoint ('.' :: rest)).1 ++ (splitPoint ('.' :: rest)).2 = rest :=
        List.takeWhile_append_dropWhile
      have hspells := Spells.point hsign hdigits hwhole hpart he
      rwa [hrest] at hspells
    · have hplain : splitPoint body = ([], body) := splitPoint_of_head fun c hc hdot => by
        cases body with
        | nil => cases hc
        | cons d rest =>
          cases hc
          exact hpoint ⟨rest, by rw [hdot]⟩
      rw [hplain] at hdigits he ⊢
      have hspells := Spells.whole hsign (hdigits.resolve_right (by simp)) hwhole he
      simpa using hspells

theorem numeral?_eq_some_iff : numeral? cs = some n ↔ Spells cs n := by
  refine ⟨spells_of_numeral?, fun h => ?_⟩
  cases h with
  | whole hsign hne hwhole htail =>
    rw [numeral?_append hsign hwhole fun c hc => ⟨(htail.stops c hc).1, (htail.stops c hc).2.2⟩,
      splitPoint_of_head fun c hc => (htail.stops c hc).2.1, exponentOf?_eq_some_iff.2 htail]
    simp [hne]
  | point hsign hne hwhole hpart htail =>
    rw [numeral?_append hsign hwhole (by rintro c ⟨⟩; decide),
      splitPoint_append hpart fun c hc => (htail.stops c hc).1, exponentOf?_eq_some_iff.2 htail]
    simp [not_and_or.2 hne]

-- How large a number is shows in how many digits it has.
theorem decimalDigits_bounds {c : Nat} (hc : c ≠ 0) :
    (10 : ℚ) ^ ((decimalDigits c).length - 1 : Int) ≤ c ∧
      (c : ℚ) < 10 ^ ((decimalDigits c).length : Int) := by
  have hpos : 0 < (decimalDigits c).length := Nat.length_toDigits_pos
  obtain ⟨k, hk⟩ : ∃ k, (decimalDigits c).length = k + 1 := Nat.exists_eq_succ_of_ne_zero hpos.ne'
  have hhigh : c < 10 ^ (k + 1) :=
    (Nat.length_toDigits_le_iff (by decide) (by omega)).1 (Nat.le_of_eq hk)
  have hlow : 10 ^ k ≤ c := by
    by_contra hless
    rcases Nat.eq_zero_or_pos k with rfl | hk'
    · omega
    · have hfew := (Nat.length_toDigits_le_iff (by decide) hk').2 (Nat.lt_of_not_le hless)
      have hdigits : (Nat.toDigits 10 c).length = k + 1 := hk
      omega
  rw [hk, Nat.cast_succ, add_sub_cancel_right, zpow_natCast, ← Nat.cast_succ, zpow_natCast]
  exact ⟨by exact_mod_cast hlow, by exact_mod_cast hhigh⟩

theorem Numeral.abs_value (n : Numeral) : |n.value| = n.coefficient * 10 ^ n.scale := by
  have hsign : |(if n.negative then -1 else 1 : ℚ)| = 1 := by split <;> simp
  rw [value, abs_mul, abs_mul, hsign, one_mul, Nat.abs_cast, abs_of_pos (zpow_pos (by norm_num) _)]

-- A numeral has a double exactly if its value is not too large for one.
theorem Numeral.round?_isSome_iff : n.round?.isSome ↔ |n.value| < Binary64.overflow := by
  rw [abs_value]
  unfold round?
  dsimp only
  have hten : (1 : ℚ) < 10 := by norm_num
  by_cases hzero : n.coefficient = 0
  · simp [hzero, one_pos.trans_le Binary64.one_le_overflow]
  obtain ⟨hlow, hhigh⟩ := decimalDigits_bounds hzero
  have hscale : (0 : ℚ) < 10 ^ n.scale := zpow_pos (by norm_num) _
  generalize ((decimalDigits n.coefficient).length : Int) = length at *
  by_cases hsmall : n.scale + length < -400
  · rw [if_pos (.inr hsmall)]
    refine iff_of_true rfl ?_
    calc (n.coefficient : ℚ) * 10 ^ n.scale < 10 ^ length * 10 ^ n.scale :=
          mul_lt_mul_of_pos_right hhigh hscale
      _ = 10 ^ (length + n.scale) := (zpow_add₀ (by norm_num) _ _).symm
      _ ≤ 10 ^ (0 : Int) := zpow_le_zpow_right₀ hten.le (by omega)
      _ = 1 := zpow_zero _
      _ ≤ Binary64.overflow := Binary64.one_le_overflow
  rw [if_neg (by simp [hzero, hsmall])]
  by_cases hlarge : 400 < n.scale + length
  · rw [if_pos hlarge]
    refine iff_of_false (by simp) (not_lt.2 ?_)
    calc Binary64.overflow ≤ 10 ^ 309 := Binary64.overflow_le
      _ = 10 ^ (309 : Int) := (zpow_natCast _ _).symm
      _ ≤ 10 ^ (length - 1 + n.scale) := zpow_le_zpow_right₀ hten.le (by omega)
      _ = 10 ^ (length - 1) * 10 ^ n.scale := zpow_add₀ (by norm_num) _ _
      _ ≤ n.coefficient * 10 ^ n.scale := mul_le_mul_of_nonneg_right hlow hscale.le
  · rw [if_neg hlarge]
    exact Binary64.ofDecimal?_isSome_iff

-- The texts that are read are those that spell a decimal number within the range of doubles.
theorem read?_isSome_iff :
    (read? cs).isSome ↔ ∃ n, Spells cs n ∧ |n.value| < Binary64.overflow := by
  simp only [← numeral?_eq_some_iff, ← Numeral.round?_isSome_iff]
  unfold read?
  cases numeral? cs with
  | none => simp
  | some n => simp

end Stepwise.Decimal
