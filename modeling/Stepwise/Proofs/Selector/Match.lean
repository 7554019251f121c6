import Stepwise.Selector.Match

namespace Stepwise

namespace Selector

open Markup (Tag Place)

variable {tag : Tag} {p : Place} {a : String} {anchor : Option Nat} {part : Simple}
  {parts : List Simple}

-- A selector that compares values letter by letter, also those that html compares without case.
-- What stands in the brackets of a pseudo-class stays as it is.

def Simple.exact : Simple → Simple
  | .attr anySpace a (some test) => .attr anySpace a (some { test with rule := .counts })
  | part => part

def Complex.exact : Complex → Complex
  | .compound parts => .compound (parts.map Simple.exact)
  | .joined left combinator parts => .joined left.exact combinator (parts.map Simple.exact)

theorem nameOn_of_lower (h : Text.lowerAscii a.toList = a.toList) (tag : Tag) :
    nameOn tag a = a := by
  rw [nameOn, h, String.ofList_toList, ite_self]

-- An index without steps is the only one.
theorem has_index {n index : Nat} :
    Progression.has ⟨0, n⟩ index = true ↔ index = n := by
  simp only [Progression.has]
  split
  · next h =>
    simp only [Bool.false_eq_true, false_iff]
    omega
  · simp only [if_true, decide_eq_true_eq]
    omega

theorem allHold_iff : allHold anchor p parts = true ↔ ∀ part ∈ parts, part.holds anchor p = true := by
  induction parts with
  | nil => simp [allHold]
  | cons part parts ih => simp [allHold, ih]

-- Case plays no part unless html says so.
theorem holds_exact
    (h : ∀ anySpace a test, part = .attr anySpace a (some test) →
      test.rule = .counts ∨ test.rule = .byElement ∧ p.tag.space ≠ .html) :
    part.exact.holds anchor p = part.holds anchor p := by
  unfold Simple.exact
  split
  · next anySpace a test =>
    have htest (isHtml : Bool) (hhtml : isHtml = (p.tag.space == .html)) (actual : String) :
        ({ test with rule := .counts } : ValueTest).holds isHtml actual =
          test.holds isHtml actual := by
      rw [ValueTest.holds, ValueTest.holds]
      rcases h _ _ _ rfl with hrule | ⟨hrule, hspace⟩
      · simp [hrule]
      · have hother : isHtml = false := by simp [hhtml, hspace]
        simp [hrule, hother]
    simp only [Simple.holds, attrHolds, htest _ rfl]
  · rfl

end Selector

def Selector.exact (s : Selector) : Selector := ⟨s.alternatives.map Selector.Complex.exact⟩

end Stepwise
