import Stepwise.Path.Reader
import Stepwise.Proofs.Text.Blank

namespace Stepwise.Path

variable {c d : Char} {cs rest : List Char}

-- What may stand in a name behind its first character.
def isNamePart (c : Char) : Bool := c.isAlphanum || c == '-' || c == '_' || c == ':'

theorem toNat_of_isDigit (h : c.isDigit = true) : 48 ≤ c.toNat ∧ c.toNat ≤ 57 :=
  ⟨of_decide_eq_true (Bool.and_eq_true_iff.1 h).1, of_decide_eq_true (Bool.and_eq_true_iff.1 h).2⟩

theorem toNat_of_isAlpha (h : c.isAlpha = true) :
    (65 ≤ c.toNat ∧ c.toNat ≤ 90) ∨ (97 ≤ c.toNat ∧ c.toNat ≤ 122) := by
  rcases Bool.or_eq_true_iff.1 h with hupper | hlower
  · exact .inl (of_decide_eq_true hupper)
  · exact .inr ⟨of_decide_eq_true (Bool.and_eq_true_iff.1 hlower).1,
      of_decide_eq_true (Bool.and_eq_true_iff.1 hlower).2⟩

theorem isDigit_of_isAlpha (h : c.isAlpha = true) : c.isDigit = false := by
  refine Bool.eq_false_iff.2 fun hdigit => ?_
  have halpha := toNat_of_isAlpha h
  have hrange := toNat_of_isDigit hdigit
  omega

-- All of them lie between the hyphen and the last small letter.
theorem toNat_of_isNamePart (h : isNamePart c = true) : 45 ≤ c.toNat ∧ c.toNat ≤ 122 := by
  simp only [isNamePart, Bool.or_eq_true, beq_iff_eq] at h
  rcases h with ((halphanum | rfl) | rfl) | rfl
  · rcases Bool.or_eq_true_iff.1 halphanum with halpha | hdigit
    · have hrange := toNat_of_isAlpha halpha
      omega
    · have hrange := toNat_of_isDigit hdigit
      omega
  · decide
  · decide
  · decide

theorem isBlank_of_isNamePart (h : isNamePart c = true) : Text.isBlank c = false := by
  have hrange := toNat_of_isNamePart h
  simp only [Text.isBlank, Bool.or_eq_false_iff, Bool.and_eq_false_iff, decide_eq_false_iff_not,
    beq_eq_false_iff_ne]
  omega

theorem isName_cons_iff : isName (c :: rest) = true ↔
    (c.isAlpha = true ∨ c = '_') ∧ ∀ d ∈ rest, isNamePart d = true := by
  simp [isName, isNamePart]

theorem isNamePart_of_start (h : c.isAlpha = true ∨ c = '_') : isNamePart c = true := by
  rcases h with h | rfl
  · simp [isNamePart, Char.isAlphanum, h]
  · decide

theorem isNamePart_of_mem (h : isName cs = true) (hc : c ∈ cs) : isNamePart c = true := by
  cases cs with
  | nil => cases hc
  | cons d rest =>
    obtain ⟨hstart, hrest⟩ := isName_cons_iff.1 h
    rcases List.mem_cons.1 hc with rfl | hc
    · exact isNamePart_of_start hstart
    · exact hrest c hc

theorem ne_nil_of_isName (h : isName cs = true) : cs ≠ [] := by
  rintro rfl
  cases h

-- A character that no name holds.
theorem not_mem_of_isName (h : isName cs = true) (hd : isNamePart d = false) : d ∉ cs := by
  intro hmem
  rw [isNamePart_of_mem h hmem] at hd
  cases hd

theorem trim_of_isName (h : isName cs = true) : Text.trim cs = cs :=
  Text.trim_eq_self
    (fun _ hc => isBlank_of_isNamePart (isNamePart_of_mem h (List.mem_of_mem_head? hc)))
    fun _ hc => isBlank_of_isNamePart (isNamePart_of_mem h (List.mem_of_mem_getLast? hc))

end Stepwise.Path
