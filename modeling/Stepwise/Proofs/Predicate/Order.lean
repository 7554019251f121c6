import Mathlib.Data.String.Basic
import Stepwise.Predicate.Basic

namespace Stepwise

variable {κ : Type} [LinearOrder κ] {f : Json → κ} {kind : Json → Prop} {x y : Json}

-- Among values of one kind predicates compare by a measure, and no other value equals one of them.
structure Json.MeasuredBy (kind : Json → Prop) (f : Json → κ) : Prop where
  order : ∀ x y, kind x → kind y → x.order? y = some (Ord.compare (f x) (f y))
  equal : ∀ x y, kind x → (x.looselyEqual y = true ↔ kind y ∧ f x = f y)

namespace Json

def IsNumber (v : Json) : Prop := ∃ n, v = .num n

def IsText (v : Json) : Prop := ∃ t, v = .str t

-- The place of a number among the doubles.
def numberRank : Json → Int
  | num n => n.toBinary64.rank
  | _ => 0

def textOf : Json → String
  | str t => t
  | _ => ""

theorem measuredBy_numberRank : MeasuredBy IsNumber numberRank where
  order := by
    rintro _ _ ⟨n, rfl⟩ ⟨m, rfl⟩
    rfl
  equal := by
    rintro _ y ⟨n, rfl⟩
    cases y with
    | num m => simp [looselyEqual, Binary64.numEq, IsNumber, numberRank]
    | _ => simp [looselyEqual, same, IsNumber]

theorem measuredBy_textOf : MeasuredBy IsText textOf where
  order := by
    rintro _ _ ⟨a, rfl⟩ ⟨b, rfl⟩
    rfl
  equal := by
    rintro _ y ⟨a, rfl⟩
    cases y with
    | str b => simp [looselyEqual, same, IsText, textOf]
    | _ => simp [looselyEqual, same, IsText]

namespace MeasuredBy

theorem test_eq_iff (h : MeasuredBy kind f) (hx : kind x) :
    Comparison.eq.test x y = true ↔ kind y ∧ f x = f y := h.equal x y hx

theorem test_lt_iff (h : MeasuredBy kind f) (hx : kind x) (hy : kind y) :
    Comparison.lt.test x y = true ↔ f x < f y := by
  simp only [Comparison.test, h.order x y hx hy]
  rw [← compare_lt_iff_lt]
  cases Ord.compare (f x) (f y) <;> simp

theorem test_gt_iff (h : MeasuredBy kind f) (hx : kind x) (hy : kind y) :
    Comparison.gt.test x y = true ↔ f y < f x := by
  simp only [Comparison.test, h.order x y hx hy]
  rw [← compare_gt_iff_gt]
  cases Ord.compare (f x) (f y) <;> simp

theorem test_le_iff (h : MeasuredBy kind f) (hx : kind x) (hy : kind y) :
    Comparison.le.test x y = true ↔ f x ≤ f y := by
  simp only [Comparison.test, h.order x y hx hy]
  rw [← compare_le_iff_le]
  cases Ord.compare (f x) (f y) <;> simp

theorem test_ge_iff (h : MeasuredBy kind f) (hx : kind x) (hy : kind y) :
    Comparison.ge.test x y = true ↔ f y ≤ f x := by
  simp only [Comparison.test, h.order x y hx hy]
  rw [← compare_ge_iff_ge]
  cases Ord.compare (f x) (f y) <;> simp

end MeasuredBy

end Json

end Stepwise
