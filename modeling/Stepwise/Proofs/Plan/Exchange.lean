import Mathlib.Logic.Equiv.Basic
import Stepwise.Proofs.Plan.Renumber
import Stepwise.Proofs.Plan.Validation
import Stepwise.Proofs.Tool.Keep

namespace Stepwise

variable {α : Type} {place : Nat} {l : List α}

-- A list with the entry at a place and the one after it exchanged.
def exchange : Nat → List α → List α
  | 0, a :: b :: rest => b :: a :: rest
  | place + 1, a :: rest => a :: exchange place rest
  | _, l => l

theorem exchange_append (before : List α) (a b : α) (rest : List α) :
    exchange before.length (before ++ a :: b :: rest) = before ++ b :: a :: rest := by
  induction before with
  | nil => rfl
  | cons x before ih =>
    rw [List.cons_append, List.length_cons, exchange, ih, List.cons_append]

-- The two neighbours at a place, and what stands before and after them.
theorem exists_eq_append (h : place + 1 < l.length) :
    ∃ before a b rest, l = before ++ a :: b :: rest ∧ before.length = place := by
  refine ⟨l.take place, l[place], l[place + 1], l.drop (place + 2), ?_, ?_⟩
  · rw [← List.drop_eq_getElem_cons h, ← List.drop_eq_getElem_cons (Nat.lt_of_succ_lt h),
      List.take_append_drop]
  · rw [List.length_take]
    omega

theorem exchange_concat (h : place + 1 < l.length) (x : α) :
    exchange place (l ++ [x]) = exchange place l ++ [x] := by
  obtain ⟨before, a, b, rest, rfl, rfl⟩ := exists_eq_append h
  rw [exchange_append, List.append_assoc, List.append_assoc, List.cons_append, List.cons_append,
    exchange_append]
  rfl

-- An entry is found at the place that its own is exchanged with.
theorem getElem?_exchange (h : place + 1 < l.length) (i : Nat) :
    (exchange place l)[Equiv.swap place (place + 1) i]? = l[i]? := by
  obtain ⟨before, a, b, rest, rfl, rfl⟩ := exists_eq_append h
  rw [exchange_append]
  rcases Nat.lt_trichotomy i before.length with hlt | rfl | hgt
  · rw [Equiv.swap_apply_of_ne_of_ne (by omega) (by omega), List.getElem?_append_left hlt,
      List.getElem?_append_left hlt]
  · rw [Equiv.swap_apply_left, List.getElem?_append_right (by omega),
      List.getElem?_append_right (by omega)]
    simp
  · rcases Nat.eq_or_lt_of_le hgt with heq | hlt
    · subst heq
      rw [Equiv.swap_apply_right, List.getElem?_append_right (by omega),
        List.getElem?_append_right (by omega)]
      simp
    · rw [Equiv.swap_apply_of_ne_of_ne (by omega) (by omega), List.getElem?_append_right (by omega),
        List.getElem?_append_right (by omega)]
      obtain ⟨n, hn⟩ : ∃ n, i - before.length = n + 2 := ⟨i - before.length - 2, by omega⟩
      rw [hn]
      rfl

theorem swap_lt {n bound : Nat} (h : place + 1 < bound) (hn : n < bound) :
    Equiv.swap place (place + 1) n < bound := by
  rw [Equiv.swap_apply_def]
  split
  · exact h
  · split
    · exact Nat.lt_of_succ_lt h
    · exact hn

-- The steps of a plan with two neighbours exchanged. What points to one of the two from a later step
-- points to it at its new place.
def exchangeSteps (place : Nat) (steps : List Step) : List Step :=
  exchange place (steps.take (place + 2)) ++
    (steps.drop (place + 2)).map (Step.renumber (Equiv.swap place (place + 1)))

theorem exchangeSteps_append (before : List Step) (a b : Step) (rest : List Step) :
    exchangeSteps before.length (before ++ a :: b :: rest) =
      before ++ b :: a :: rest.map (Step.renumber (Equiv.swap before.length (before.length + 1))) := by
  have hsplit : before ++ a :: b :: rest = (before ++ [a, b]) ++ rest := by simp
  have hlength : before.length + 2 = (before ++ [a, b]).length := by simp
  rw [exchangeSteps, hsplit, hlength, List.take_left, List.drop_left, exchange_append]
  simp

-- Exchanging steps breaks no constraint, as long as both have numbers that a pointer can name.
theorem violations_exchangeSteps {steps : List Step} (hchecked : ∀ s ∈ steps, Checked s)
    (hplace : place + 1 < steps.length) (hnumber : place + 1 < 0x10000000000000000) :
    violations (exchangeSteps place steps) = [] := by
  obtain ⟨before, a, b, rest, rfl, rfl⟩ := exists_eq_append hplace
  rw [exchangeSteps_append]
  simp only [List.forall_mem_append, List.forall_mem_cons] at hchecked
  obtain ⟨hbefore, ha, hb, hrest⟩ := hchecked
  refine violationsFrom_eq_nil 0 ?_
  simp only [List.forall_mem_append, List.forall_mem_cons, List.forall_mem_map]
  exact ⟨hbefore, hb, ha, fun s hs => (hrest s hs).renumber fun n hn => swap_lt hnumber hn⟩

-- Two store steps that use one key, of which at least one writes to it.
def Step.Conflicts (a b : Step) : Prop :=
  ∃ key x y, a.access? = some (x, key) ∧ b.access? = some (y, key) ∧ (x = .write ∨ y = .write)

end Stepwise
