import Stepwise.Proofs.Except
import Stepwise.Proofs.Path.Cut
import Stepwise.Proofs.Path.Name
import Stepwise.Proofs.Path.Spelling

namespace Stepwise.Path

variable {c d q : Char} {n : Nat} {cs v rest : List Char} {a : String}

theorem isNamePart_of_isDigit (h : c.isDigit = true) : isNamePart c = true := by
  simp [isNamePart, Char.isAlphanum, h]

theorem position?_of_forall_isDigit (hne : cs ≠ []) (h : ∀ c ∈ cs, c.isDigit = true) :
    position? cs =
      if cs.foldl (fun n c => n * 10 + (c.toNat - '0'.toNat)) 0 < 0x10000000000000000 then
        some (cs.foldl (fun n c => n * 10 + (c.toNat - '0'.toNat)) 0)
      else none := by
  cases cs with
  | nil => exact absurd rfl hne
  | cons c rest =>
    have hplus : c ≠ '+' := by
      rintro rfl
      exact absurd (h '+' List.mem_cons_self) (by decide)
    have hall : (c :: rest).all Char.isDigit = true := List.all_eq_true.2 h
    simp [position?, hplus, hall]

-- A text that begins with neither a digit nor a sign is no position.
theorem position?_cons_of_not_isDigit (hdigit : c.isDigit = false) (hplus : c ≠ '+') :
    position? (c :: rest) = none := by
  simp [position?, hplus, hdigit]

theorem splitOnce?_append (h : c ∉ cs) (rest : List Char) :
    splitOnce? c (cs ++ c :: rest) = some (cs, rest) := by
  induction cs with
  | nil => simp [splitOnce?]
  | cons d cs ih =>
    have hd : d ≠ c := fun heq => h (heq ▸ List.mem_cons_self)
    have hrest := ih fun hmem => h (List.mem_cons_of_mem d hmem)
    simp [splitOnce?, hd, hrest]

theorem splitOnce?_of_not_mem (h : c ∉ cs) : splitOnce? c cs = none := by
  induction cs with
  | nil => rfl
  | cons d cs ih =>
    have hd : d ≠ c := fun heq => h (heq ▸ List.mem_cons_self)
    have hrest := ih fun hmem => h (List.mem_cons_of_mem d hmem)
    simp [splitOnce?, hd, hrest]

theorem isBlank_of_isQuote (h : isQuote q = true) : Text.isBlank q = false := by
  simp only [isQuote, Bool.or_eq_true, beq_iff_eq] at h
  rcases h with rfl | rfl <;> decide

theorem unquote_quoted (hq : isQuote q = true) (v : List Char) :
    unquote (q :: v ++ [q]) = .ok v := by
  simp [unquote, hq]

theorem trim_quoted (hq : isQuote q = true) (v : List Char) :
    Text.trim (q :: v ++ [q]) = q :: v ++ [q] := by
  have hblank := isBlank_of_isQuote hq
  refine Text.trim_eq_self (by simp [hblank]) fun c hc => ?_
  rw [List.getLast?_concat] at hc
  cases hc
  exact hblank

theorem containsArguments?_written (cs : List Char) :
    containsArguments? ("contains(".toList ++ cs ++ [')']) = some cs := by
  have hprefix : ("contains(".toList).isPrefixOf ("contains(".toList ++ cs ++ [')']) = true := by
    rw [List.append_assoc]
    exact List.isPrefixOf_iff_prefix.2 (List.prefix_append _ _)
  have hdrop : ("contains(".toList ++ cs ++ [')']).drop "contains(".toList.length = cs ++ [')'] := by
    rw [List.append_assoc, List.drop_left' rfl]
  simp only [containsArguments?, hprefix, hdrop]
  simp

theorem containsArguments?_cons_of_ne (h : c ≠ 'c') : containsArguments? (c :: rest) = none := by
  simp [containsArguments?, Ne.symm h]

theorem attributeName_of_isName (h : isName a.toList = true) : attributeName a.toList = .ok a := by
  rw [attributeName, if_pos h, String.ofList_toList]

theorem readCondition_at (cs : List Char) : readCondition ('@' :: cs) = readAttribute cs := by
  have hposition : position? ('@' :: cs) = none :=
    position?_cons_of_not_isDigit (by decide) (by decide)
  have hcontains : containsArguments? ('@' :: cs) = none := containsArguments?_cons_of_ne (by decide)
  simp only [readCondition, hposition, hcontains]

theorem readCondition_contains (cs : List Char) :
    readCondition ("contains(".toList ++ cs ++ [')']) = readContains cs := by
  have hposition : position? ("contains(".toList ++ cs ++ [')']) = none :=
    position?_cons_of_not_isDigit (by decide) (by decide)
  simp only [readCondition, hposition, containsArguments?_written]

theorem sealed_char_of_isNamePart (h : isNamePart c = true) :
    isQuote c = false ∧ c ≠ '[' ∧ c ≠ ']' := by
  refine ⟨Bool.eq_false_iff.2 fun hquote => ?_, ?_, ?_⟩
  · simp only [isQuote, Bool.or_eq_true, beq_iff_eq] at hquote
    rcases hquote with rfl | rfl
    · cases h
    · cases h
  · rintro rfl
    cases h
  · rintro rfl
    cases h

end Stepwise.Path
