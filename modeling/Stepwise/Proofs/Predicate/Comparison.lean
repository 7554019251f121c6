import Stepwise.Proofs.Predicate.Order

namespace Stepwise

variable {x y : Json}

-- Two values that have an order.
def Json.Comparable (x y : Json) : Prop := (x.IsNumber ∧ y.IsNumber) ∨ (x.IsText ∧ y.IsText)

namespace Comparison

-- One of less, equal and greater is true, and the other operators go by these three.
structure Trichotomous (verdict : Comparison → Bool) : Prop where
  one : [verdict lt, verdict eq, verdict gt].count true = 1
  le_iff : verdict le = true ↔ verdict lt = true ∨ verdict eq = true
  ge_iff : verdict ge = true ↔ verdict gt = true ∨ verdict eq = true

-- What the operators say of two values the other way round.
structure Mirrored (verdict mirror : Comparison → Bool) : Prop where
  mirror_lt : mirror lt = verdict gt
  mirror_gt : mirror gt = verdict lt
  mirror_le : mirror le = verdict ge
  mirror_ge : mirror ge = verdict le

structure Unordered (verdict : Comparison → Bool) : Prop where
  not_lt : verdict lt = false
  not_le : verdict le = false
  not_gt : verdict gt = false
  not_ge : verdict ge = false

end Comparison

open Comparison

namespace Json

variable {κ : Type} [LinearOrder κ] {f : Json → κ} {kind : Json → Prop}

theorem MeasuredBy.trichotomous (h : MeasuredBy kind f) (hx : kind x) (hy : kind y) :
    Trichotomous fun op => op.test x y := by
  have hlt := h.test_lt_iff hx hy
  have hgt := h.test_gt_iff hx hy
  have heq : eq.test x y = true ↔ f x = f y := by
    rw [h.test_eq_iff hx]
    exact and_iff_right hy
  refine ⟨?_, ?_, ?_⟩
  · have hlt' : lt.test x y = decide (f x < f y) := by rw [Bool.eq_iff_iff, hlt, decide_eq_true_iff]
    have hgt' : gt.test x y = decide (f y < f x) := by rw [Bool.eq_iff_iff, hgt, decide_eq_true_iff]
    have heq' : eq.test x y = decide (f x = f y) := by rw [Bool.eq_iff_iff, heq, decide_eq_true_iff]
    rcases lt_trichotomy (f x) (f y) with hless | hsame | hmore
    · simp [hlt', heq', hgt', hless, hless.ne, hless.le]
    · simp [hlt', heq', hgt', hsame]
    · simp [hlt', heq', hgt', hmore, hmore.ne', hmore.le]
  · rw [h.test_le_iff hx hy, hlt, heq, le_iff_lt_or_eq]
  · rw [h.test_ge_iff hx hy, hgt, heq, le_iff_lt_or_eq, eq_comm (a := f x)]

theorem MeasuredBy.mirrored (h : MeasuredBy kind f) (hx : kind x) (hy : kind y) :
    Mirrored (fun op => op.test x y) fun op => op.test y x := by
  refine ⟨?_, ?_, ?_, ?_⟩
  · rw [Bool.eq_iff_iff, h.test_lt_iff hy hx, h.test_gt_iff hx hy]
  · rw [Bool.eq_iff_iff, h.test_gt_iff hy hx, h.test_lt_iff hx hy]
  · rw [Bool.eq_iff_iff, h.test_le_iff hy hx, h.test_ge_iff hx hy]
  · rw [Bool.eq_iff_iff, h.test_ge_iff hy hx, h.test_le_iff hx hy]

theorem Comparable.trichotomous (h : x.Comparable y) : Trichotomous fun op => op.test x y := by
  rcases h with ⟨hx, hy⟩ | ⟨hx, hy⟩
  · exact measuredBy_numberRank.trichotomous hx hy
  · exact measuredBy_textOf.trichotomous hx hy

theorem Comparable.mirrored (h : x.Comparable y) :
    Mirrored (fun op => op.test x y) fun op => op.test y x := by
  rcases h with ⟨hx, hy⟩ | ⟨hx, hy⟩
  · exact measuredBy_numberRank.mirrored hx hy
  · exact measuredBy_textOf.mirrored hx hy

theorem order?_eq_none_iff : x.order? y = none ↔ ¬ x.Comparable y := by
  cases x <;> cases y <;> simp [order?, Comparable, IsNumber, IsText]

theorem unordered_of_not_comparable (h : ¬ x.Comparable y) : Unordered fun op => op.test x y := by
  have hnone : x.order? y = none := order?_eq_none_iff.mpr h
  refine ⟨?_, ?_, ?_, ?_⟩ <;> simp [test, hnone]

end Json

namespace Predicate

variable {field : String} {item value actual : Json}

-- What the comparisons of a field with a constant say of an item.
def verdict (field : String) (item value : Json) (op : Comparison) : Bool :=
  (compare field op value).evaluate item

theorem verdict_of_walk (h : (FieldPath.ofString field).walk item = .ok actual) :
    verdict field item value = fun op => op.test actual value := by
  funext op
  simp only [verdict, evaluate, h]

theorem verdict_of_error {fault : FieldPath.Fault}
    (h : (FieldPath.ofString field).walk item = .error fault) (op : Comparison) :
    verdict field item value op = false := by
  simp only [verdict, evaluate, h]

-- The comparisons of a field with a constant: false without the field, else equal or not, and in
-- one order where the two values have one.
theorem verdict_consistent (field : String) (item value : Json) :
    (∀ fault, (FieldPath.ofString field).walk item = .error fault →
      ∀ op, verdict field item value op = false) ∧
    ∀ actual, (FieldPath.ofString field).walk item = .ok actual →
      verdict field item value ne = !verdict field item value eq ∧
      (actual.Comparable value → Trichotomous (verdict field item value) ∧
        ∀ field' item', (FieldPath.ofString field').walk item' = .ok value →
          Mirrored (verdict field item value) (verdict field' item' actual)) ∧
      (¬ actual.Comparable value → Unordered (verdict field item value)) := by
  refine ⟨fun fault h op => verdict_of_error h op, fun actual h => ?_⟩
  rw [verdict_of_walk h]
  refine ⟨rfl, fun hcomparable => ⟨hcomparable.trichotomous, fun field' item' h' => ?_⟩,
    Json.unordered_of_not_comparable⟩
  rw [verdict_of_walk h']
  exact hcomparable.mirrored

-- An item with a price, and one with a price of the same value written otherwise.
theorem verdict_consistent_price :
    (∀ op, verdict "price" (.obj [("name", .str "a")]) (.ofNat 1) op = false) ∧
      Trichotomous (verdict "price" (.obj [("price", .ofNat 1)]) (.num (.float (.ofInt 1)))) ∧
      Mirrored (verdict "price" (.obj [("price", .ofNat 1)]) (.num (.float (.ofInt 1))))
        (verdict "cost" (.obj [("cost", .num (.float (.ofInt 1)))]) (.ofNat 1)) ∧
      Unordered (verdict "price" (.obj [("price", .ofNat 1)]) (.str "1")) := by
  have hmissing := (verdict_consistent "price" (.obj [("name", .str "a")]) (.ofNat 1)).1
  have hnumbers := (verdict_consistent "price" (.obj [("price", .ofNat 1)])
    (.num (.float (.ofInt 1)))).2 _ rfl
  have htext := (verdict_consistent "price" (.obj [("price", .ofNat 1)]) (.str "1")).2 _ rfl
  have hcomparable : (Json.ofNat 1).Comparable (.num (.float (.ofInt 1))) :=
    .inl ⟨⟨_, rfl⟩, ⟨_, rfl⟩⟩
  have hother : ¬ (Json.ofNat 1).Comparable (.str "1") := by
    simp [Json.Comparable, Json.IsNumber, Json.IsText, Json.ofNat]
  exact ⟨hmissing _ rfl, (hnumbers.2.1 hcomparable).1, (hnumbers.2.1 hcomparable).2 "cost" _ rfl,
    htext.2.2 hother⟩

end Predicate

end Stepwise
