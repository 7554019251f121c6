import Stepwise.Path.Reader

namespace Stepwise.Path

variable {c q : Char} {cs v inner rest : List Char} {depth : Nat}

-- A text without brackets outside quotes, in which each quote is closed.
inductive Sealed : List Char → Prop
  | nil : Sealed []
  | plain {c : Char} {cs : List Char} (hquote : isQuote c = false) (hopen : c ≠ '[')
    (hclose : c ≠ ']') (h : Sealed cs) : Sealed (c :: cs)
  | quoted {q : Char} {v cs : List Char} (hq : isQuote q = true) (hv : q ∉ v) (h : Sealed cs) :
    Sealed (q :: v ++ q :: cs)

theorem Sealed.of_forall (h : ∀ c ∈ cs, isQuote c = false ∧ c ≠ '[' ∧ c ≠ ']') : Sealed cs := by
  induction cs with
  | nil => exact .nil
  | cons c rest ih =>
    rw [List.forall_mem_cons] at h
    obtain ⟨⟨hquote, hopen, hclose⟩, hrest⟩ := h
    exact .plain hquote hopen hclose (ih hrest)

theorem Sealed.append (h : Sealed cs) (h' : Sealed rest) : Sealed (cs ++ rest) := by
  induction h with
  | nil => exact h'
  | plain hquote hopen hclose _ ih => exact .plain hquote hopen hclose ih
  | quoted hq hv _ ih =>
    rw [List.append_assoc, List.cons_append]
    exact .quoted hq hv ih

-- What is cut off grows at its front.
def ahead (cs : List Char) (p : List Char × List Char) : List Char × List Char := (cs ++ p.1, p.2)

theorem ahead_ahead (cs rest : List Char) : ahead cs ∘ ahead rest = ahead (cs ++ rest) := by
  funext p
  simp [ahead]

section Condition

theorem cutCondition?_quoted (hv : q ∉ v) (rest : List Char) :
    cutCondition? (some q) (v ++ q :: rest) = (cutCondition? none rest).map (ahead (v ++ [q])) := by
  induction v with
  | nil =>
    simp only [List.nil_append, cutCondition?, if_pos]
    rcases cutCondition? none rest with - | p <;> rfl
  | cons c v ih =>
    have hc : c ≠ q := fun heq => hv (heq ▸ List.mem_cons_self)
    have hcut := ih fun hmem => hv (List.mem_cons_of_mem c hmem)
    simp only [List.cons_append, cutCondition?, if_neg hc, hcut]
    rcases cutCondition? none rest with - | p <;> rfl

-- A condition is cut at the bracket that closes it.
theorem cutCondition?_sealed (h : Sealed inner) (rest : List Char) :
    cutCondition? none (inner ++ ']' :: rest) = some (inner, rest) := by
  induction h with
  | nil => simp [cutCondition?, isQuote]
  | plain hquote _ hclose _ ih => simp [cutCondition?, hquote, hclose, ih]
  | @quoted q v cs hq hv _ ih =>
    have hcut := cutCondition?_quoted hv (cs ++ ']' :: rest)
    rw [ih] at hcut
    simp only [List.cons_append, List.append_assoc, cutCondition?, hq, if_true, hcut]
    simp [ahead]

end Condition

section Step

theorem cutStep_quoted (hv : q ∉ v) :
    cutStep depth (some q) (v ++ q :: rest) = (cutStep depth none rest).map (ahead (v ++ [q])) := by
  induction v with
  | nil =>
    simp only [List.nil_append, cutStep, if_pos]
    rcases cutStep depth none rest with - | p <;> rfl
  | cons c v ih =>
    have hc : c ≠ q := fun heq => hv (heq ▸ List.mem_cons_self)
    have hcut := ih fun hmem => hv (List.mem_cons_of_mem c hmem)
    simp only [List.cons_append, cutStep, if_neg hc, hcut]
    rcases cutStep depth none rest with - | p <;> rfl

theorem cutStep_quote (hq : isQuote q = true) (hv : q ∉ v) :
    cutStep depth none (q :: v ++ q :: rest) =
      (cutStep depth none rest).map (ahead (q :: v ++ [q])) := by
  simp only [List.cons_append, cutStep, hq, if_true, cutStep_quoted hv]
  rcases cutStep depth none rest with - | p <;> rfl

-- A slash ends a step unless it stands in brackets.
theorem cutStep_plain (hquote : isQuote c = false) (hopen : c ≠ '[') (hclose : c ≠ ']')
    (hslash : ¬ (c = '/' ∧ depth = 0)) :
    cutStep depth none (c :: rest) = (cutStep depth none rest).map (ahead [c]) := by
  simp only [cutStep, hquote, if_neg hopen, if_neg hclose, if_neg hslash, Bool.false_eq_true,
    if_false]
  rcases cutStep depth none rest with - | p <;> rfl

theorem map_ahead_map {x : Except Fault (List Char × List Char)} :
    (x.map (ahead rest)).map (ahead cs) = x.map (ahead (cs ++ rest)) := by
  rw [← ahead_ahead]
  cases x <;> rfl

theorem cutStep_sealed (h : Sealed inner) (rest : List Char) :
    cutStep (depth + 1) none (inner ++ rest) =
      (cutStep (depth + 1) none rest).map (ahead inner) := by
  induction h with
  | nil =>
    rw [List.nil_append]
    rcases cutStep (depth + 1) none rest with - | p <;> rfl
  | plain hquote hopen hclose _ ih =>
    rw [List.cons_append, cutStep_plain hquote hopen hclose (by omega), ih, map_ahead_map]
    rfl
  | @quoted q v cs hq hv _ ih =>
    have htext : q :: v ++ q :: cs ++ rest = q :: v ++ q :: (cs ++ rest) := by simp
    rw [htext, cutStep_quote hq hv, ih, map_ahead_map]
    simp

theorem cutStep_open :
    cutStep depth none ('[' :: rest) = (cutStep (depth + 1) none rest).map (ahead ['[']) := by
  have hquote : isQuote '[' = false := by decide
  simp only [cutStep, hquote, Bool.false_eq_true, if_false, if_true]
  rcases cutStep (depth + 1) none rest with - | p <;> rfl

theorem cutStep_close :
    cutStep (depth + 1) none (']' :: rest) = (cutStep depth none rest).map (ahead [']']) := by
  have hquote : isQuote ']' = false := by decide
  have hne : ']' ≠ '[' := by decide
  simp only [cutStep, hquote, if_neg hne, Bool.false_eq_true, if_false, if_true]
  rcases cutStep depth none rest with - | p <;> rfl

theorem cutStep_bracketed (h : Sealed inner) (rest : List Char) :
    cutStep depth none ('[' :: inner ++ ']' :: rest) =
      (cutStep depth none rest).map (ahead ('[' :: inner ++ [']'])) := by
  rw [List.cons_append, cutStep_open, cutStep_sealed h, cutStep_close, map_ahead_map, map_ahead_map]
  simp

-- A step ends where the text does, or the next step begins.
theorem cutStep_end (h : ∀ c ∈ rest.head?, c = '/') : cutStep 0 none rest = .ok ([], rest) := by
  cases rest with
  | nil => rfl
  | cons c rest =>
    obtain rfl : c = '/' := h c (by simp)
    simp [cutStep, isQuote]

end Step

end Stepwise.Path
