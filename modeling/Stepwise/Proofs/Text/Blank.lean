import Mathlib.Data.List.TakeWhile
import Stepwise.Text.Blank

namespace Stepwise.Text

variable {p : Char → Bool} {cs front back : List Char}

-- Nothing but white space.
def Blank (cs : List Char) : Prop := ∀ c ∈ cs, isBlank c = true

theorem Blank.nil : Blank [] := by simp [Blank]

theorem dropEndWhile_append_of_pos (h : ∀ c ∈ back, p c = true) :
    dropEndWhile p (cs ++ back) = dropEndWhile p cs := by
  have hback : ∀ c ∈ back.reverse, p c = true := fun c hc => h c (List.mem_reverse.1 hc)
  rw [dropEndWhile, List.reverse_append, List.dropWhile_append_of_pos hback, dropEndWhile]

theorem dropEndWhile_of_getLast? {p : Char → Bool} (h : ∀ c ∈ cs.getLast?, p c = false) :
    dropEndWhile p cs = cs := by
  rcases List.eq_nil_or_concat cs with rfl | ⟨front, last, rfl⟩
  · rfl
  · have hlast : p last = false := h last (by simp)
    simp [dropEndWhile, hlast]

-- A text with no white space at its ends stays as it is.
theorem trim_eq_self (hhead : ∀ c ∈ cs.head?, isBlank c = false)
    (hlast : ∀ c ∈ cs.getLast?, isBlank c = false) : trim cs = cs := by
  have hdrop : cs.dropWhile isBlank = cs := by
    cases cs with
    | nil => rfl
    | cons c rest =>
      have hc : isBlank c = false := hhead c (by simp)
      rw [List.dropWhile_cons_of_neg (by simp [hc])]
  rw [trim, hdrop, dropEndWhile_of_getLast? hlast]

-- White space around a text makes no difference to what is left of it.
theorem trim_pad (hfront : Blank front) (hback : Blank back) :
    trim (front ++ cs ++ back) = trim cs := by
  rw [trim, List.append_assoc, List.dropWhile_append_of_pos hfront, List.dropWhile_append]
  split
  · next h =>
    have hnone : back.dropWhile isBlank = [] := List.dropWhile_eq_nil_iff.2 hback
    rw [trim, List.isEmpty_iff.1 h, hnone]
  · rw [dropEndWhile_append_of_pos hback, trim]

theorem isBlank_getLast?_trim (cs : List Char) :
    ∀ c ∈ (trim cs).getLast?, isBlank c = false := by
  intro c hc
  have hhead := List.head?_dropWhile_not isBlank (cs.dropWhile isBlank).reverse
  rw [trim, dropEndWhile, List.getLast?_reverse] at hc
  rwa [hc] at hhead

theorem exists_trim (cs : List Char) :
    ∃ front back, Blank front ∧ Blank back ∧ cs = front ++ trim cs ++ back := by
  refine ⟨cs.takeWhile isBlank, ((cs.dropWhile isBlank).reverse.takeWhile isBlank).reverse,
    fun c hc => List.mem_takeWhile_imp hc, fun c hc => ?_, ?_⟩
  · exact List.mem_takeWhile_imp (List.mem_reverse.1 hc)
  · rw [List.append_assoc, trim, dropEndWhile, ← List.reverse_append, List.takeWhile_append_dropWhile,
      List.reverse_reverse, List.takeWhile_append_dropWhile]

-- A text that ends in something else has its white space in front.
theorem exists_trim_of_last (h : ∀ c ∈ cs.getLast?, isBlank c = false) :
    ∃ front, Blank front ∧ cs = front ++ trim cs := by
  obtain ⟨front, back, hfront, hback, hcs⟩ := exists_trim cs
  refine ⟨front, hfront, ?_⟩
  rcases List.eq_nil_or_concat back with rfl | ⟨back, last, rfl⟩
  · rwa [List.append_nil] at hcs
  · have hlast := h last (by rw [hcs]; simp)
    rw [hback last (by simp)] at hlast
    cases hlast

end Stepwise.Text
