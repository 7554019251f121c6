import Stepwise.Json.Printer
import Stepwise.Json.Reader
import Stepwise.Proofs.Text.Digits

namespace Stepwise

namespace Json

open Stepwise.Text

variable {negative : Bool} {digits dropped kept n : Nat} {exponent start : Int}
  {cs surplus rest follow : List Char} {number : Number}

-- What may stand behind a number: nothing that it could go on with.
def Stops (follow : List Char) : Prop :=
  ∀ c ∈ follow.head?, c.isDigit = false ∧ c ≠ '.' ∧ c ≠ 'e' ∧ c ≠ 'E'

theorem Stops.noDigit (h : Stops follow) : ∀ c ∈ follow.head?, c.isDigit = false :=
  fun c hc => (h c hc).1

theorem finish_append (h : finish negative digits exponent cs = .ok (number, rest))
    (follow : List Char) :
    finish negative digits exponent (cs ++ follow) = .ok (number, rest ++ follow) := by
  unfold finish at h ⊢
  split at h
  · cases h; rfl
  · cases h

theorem readScale_append {down : Bool} (hfollow : Stops follow)
    (h : readScale negative down digits start cs = .ok (number, rest)) :
    readScale negative down digits start (cs ++ follow) = .ok (number, rest ++ follow) := by
  simp only [readScale, takeWhile_append_of_head hfollow.noDigit,
    dropWhile_append_of_head hfollow.noDigit] at h ⊢
  split at h
  · split at h <;> cases h
  · next hne =>
    rw [if_neg hne]
    split at h
    · next hsize =>
      rw [if_pos hsize]
      exact finish_append h follow
    · next hsize =>
      rw [if_neg hsize]
      split at h
      · cases h
      · next hsmall =>
        rw [if_neg hsmall]
        cases h
        rfl

theorem splitSign_cons_append (c : Char) (cs follow : List Char) :
    Decimal.splitSign (c :: cs ++ follow) =
      ((Decimal.splitSign (c :: cs)).1, (Decimal.splitSign (c :: cs)).2 ++ follow) := by
  unfold Decimal.splitSign
  split <;> simp_all

theorem readExponent_append (hfollow : Stops follow)
    (h : readExponent negative digits start cs = .ok (number, rest)) :
    readExponent negative digits start (cs ++ follow) = .ok (number, rest ++ follow) := by
  cases cs with
  | nil => cases h
  | cons c cs =>
    rw [readExponent, splitSign_cons_append]
    exact readScale_append hfollow h

theorem readFraction_append (hfollow : Stops follow)
    (h : readFraction negative digits dropped cs = .ok (number, rest)) :
    readFraction negative digits dropped (cs ++ follow) = .ok (number, rest ++ follow) := by
  simp only [readFraction, takeWhile_append_of_head hfollow.noDigit,
    dropWhile_append_of_head hfollow.noDigit] at h ⊢
  split at h
  · split at h <;> cases h
  · next hne =>
    rw [if_neg hne]
    cases hrest : cs.dropWhile Char.isDigit with
    | nil =>
      rw [hrest] at h
      have hfinish := finish_append h follow
      cases follow with
      | nil => exact hfinish
      | cons c follow =>
        obtain ⟨-, -, he, hE⟩ := hfollow c rfl
        have hexponent : ¬(c = 'e' ∨ c = 'E') := not_or.2 ⟨he, hE⟩
        simpa only [List.nil_append, if_neg hexponent] using hfinish
    | cons c more =>
      simp only [hrest, List.cons_append] at h ⊢
      split at h
      · next hc =>
        rw [if_pos hc]
        exact readExponent_append hfollow h
      · next hc =>
        rw [if_neg hc]
        exact finish_append h follow

theorem finishWhole_append (h : finishWhole negative digits surplus cs = .ok (number, rest))
    (follow : List Char) :
    finishWhole negative digits surplus (cs ++ follow) = .ok (number, rest ++ follow) := by
  unfold finishWhole at h ⊢
  split at h
  · next hsurplus =>
    rw [if_pos hsurplus]
    exact finish_append h follow
  · next hsurplus =>
    rw [if_neg hsurplus]
    split at h
    · next hsign =>
      cases h
      rw [if_pos hsign]
    · next hsign =>
      rw [if_neg hsign]
      split at h
      · next hrange =>
        cases h
        rw [if_pos hrange]
      · next hrange =>
        rw [if_neg hrange]
        exact finish_append h follow

theorem readTail_of_stops (hfollow : Stops follow) :
    readTail negative digits surplus follow = finishWhole negative digits surplus follow := by
  cases follow with
  | nil => rfl
  | cons c follow =>
    obtain ⟨-, hpoint, he, hE⟩ := hfollow c rfl
    rw [readTail, if_neg hpoint, if_neg (not_or.2 ⟨he, hE⟩)]

theorem readTail_append (hfollow : Stops follow)
    (h : readTail negative digits surplus cs = .ok (number, rest)) :
    readTail negative digits surplus (cs ++ follow) = .ok (number, rest ++ follow) := by
  cases cs with
  | nil =>
    rw [readTail] at h
    rw [List.nil_append, readTail_of_stops hfollow]
    exact finishWhole_append h follow
  | cons c more =>
    rw [readTail] at h
    rw [List.cons_append, readTail]
    split at h
    · next hpoint =>
      rw [if_pos hpoint]
      exact readFraction_append hfollow h
    · next hpoint =>
      rw [if_neg hpoint]
      split at h
      · next hexponent =>
        rw [if_pos hexponent]
        exact readExponent_append hfollow h
      · next hexponent =>
        rw [if_neg hexponent]
        exact finishWhole_append h follow

-- A number is read alike whatever it is followed by, as long as that cannot go on with it.
theorem readNumber_append (hfollow : Stops follow)
    (h : readNumber negative cs = .ok (number, rest)) :
    readNumber negative (cs ++ follow) = .ok (number, rest ++ follow) := by
  simp only [readNumber, takeWhile_append_of_head hfollow.noDigit,
    dropWhile_append_of_head hfollow.noDigit] at h ⊢
  split at h
  · split at h <;> cases h
  · cases h
  · exact readTail_append hfollow h

-- A number begins with a digit.
theorem head_of_readNumber (h : readNumber negative cs = .ok (number, rest)) :
    ∃ c more, cs = c :: more ∧ c.isDigit = true := by
  cases cs with
  | nil => cases h
  | cons c more =>
    refine ⟨c, more, rfl, ?_⟩
    by_contra hc
    simp [readNumber, hc, stopAt] at h

section Integer

theorem le_ofDigitChars (cs : List Char) (kept : Nat) : kept ≤ Nat.ofDigitChars 10 cs kept := by
  induction cs generalizing kept with
  | nil => exact Nat.le_refl kept
  | cons c cs ih =>
    have hstep := ih (10 * kept + (c.toNat - '0'.toNat))
    rw [Nat.ofDigitChars_cons]
    omega

theorem takeDigits_of_lt (hfigures : ∀ c ∈ cs, c.isDigit = true)
    (hvalue : Nat.ofDigitChars 10 cs kept < 0x10000000000000000) :
    takeDigits kept cs = (Nat.ofDigitChars 10 cs kept, []) := by
  induction cs generalizing kept with
  | nil => rfl
  | cons c cs ih =>
    obtain ⟨hc, hcs⟩ := List.forall_mem_cons.1 hfigures
    rw [Nat.ofDigitChars_cons, Nat.mul_comm] at hvalue ⊢
    have hfits := Nat.lt_of_le_of_lt (le_ofDigitChars cs _) hvalue
    rw [takeDigits, if_pos ⟨hc, hfits⟩, ih hcs hvalue]

theorem readNumber_toDigits (hfollow : Stops follow) (hn : n < 0x10000000000000000) :
    readNumber negative (Nat.toDigits 10 n ++ follow) = finishWhole negative n [] follow := by
  have hdigits := isDigit_toDigits n
  have hvalue : Nat.ofDigitChars 10 (Nat.toDigits 10 n) 0 = n := Nat.ofDigitChars_ten_toDigits
  have htake := takeDigits_of_lt hdigits (hvalue.symm ▸ hn)
  rw [hvalue] at htake
  simp only [readNumber, takeWhile_append_of_stop hdigits hfollow.noDigit,
    dropWhile_append_of_stop hdigits hfollow.noDigit, htake]
  split
  · next hnil => exact absurd hnil Nat.toDigits_ne_nil
  · next hdigit =>
    have hzero : n = 0 := by
      by_contra hpos
      exact head_toDigits (Nat.pos_of_ne_zero hpos) '0' (by rw [hdigit]; rfl) rfl
    subst hzero
    cases hdigit
  · exact readTail_of_stops hfollow

end Integer

end Json

-- A number that comes back from its text: an integer within 64 bits, or a double that is the one read
-- from the digits written for it.
def Number.Legible : Number → Prop
  | .int z => -0x8000000000000000 ≤ z ∧ z < 0x10000000000000000
  | .float x => Json.readNumber x.negative (Json.floatLayout.write (Decimal.shortest x.magnitude)) =
      .ok (.float x, [])

instance : DecidablePred Number.Legible
  | .int z => inferInstanceAs (Decidable (-0x8000000000000000 ≤ z ∧ z < 0x10000000000000000))
  | .float _ => inferInstanceAs (Decidable (_ = _))

namespace Json

-- The text of a number as the reader takes it apart.
theorem readNumber_of_legible (h : number.Legible) :
    ∃ negative body, (numberText number).toList = Decimal.signed negative body ∧
      ∀ follow, Stops follow → readNumber negative (body ++ follow) = .ok (number, follow) := by
  cases number with
  | float x =>
    refine ⟨x.negative, floatLayout.write (Decimal.shortest x.magnitude), ?_, ?_⟩
    · rw [numberText, Decimal.write, String.toList_ofList]
    · intro follow hfollow
      exact readNumber_append hfollow h
  | int z =>
    obtain ⟨hlow, hhigh⟩ := h
    cases z with
    | ofNat n =>
      rw [Int.ofNat_eq_natCast] at hhigh
      refine ⟨false, Nat.toDigits 10 n, String.toList_ofList, fun follow hfollow => ?_⟩
      rw [readNumber_toDigits hfollow (by omega)]
      rfl
    | negSucc m =>
      refine ⟨true, Nat.toDigits 10 (m + 1), ?_, fun follow hfollow => ?_⟩
      · have htext : numberText (.int (.negSucc m)) =
            "-" ++ String.ofList (Nat.toDigits 10 (m + 1)) := rfl
        rw [htext, String.toList_append, String.toList_ofList, String.toList_ofList]
        rfl
      · have hrange : 0 < m + 1 ∧ m + 1 ≤ 0x8000000000000000 := by omega
        rw [readNumber_toDigits hfollow (by omega), finishWhole, if_neg (by simp),
          if_neg (by simp), if_pos hrange]
        rfl

end Json

end Stepwise
