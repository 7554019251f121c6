import Mathlib.Data.List.Forall2
import Stepwise.Predicate.Basic
import Stepwise.Proofs.Decimal.Value

namespace Stepwise

variable {n m : Number} {x y : Json} {r : Number → Number → Prop}

-- Two values that differ in their numbers at most: arrays item by item, objects with the same names
-- and member by member, and the numbers at the same places are related.
inductive Json.EqualUpTo (r : Number → Number → Prop) : Json → Json → Prop
  | null : EqualUpTo r .null .null
  | bool (b : Bool) : EqualUpTo r (.bool b) (.bool b)
  | num {n m : Number} (h : r n m) : EqualUpTo r (.num n) (.num m)
  | str (s : String) : EqualUpTo r (.str s) (.str s)
  | arr {xs ys : List Json} (h : List.Forall₂ (EqualUpTo r) xs ys) : EqualUpTo r (.arr xs) (.arr ys)
  | obj {xs ys : List (String × Json)} (hnames : xs.map Prod.fst = ys.map Prod.fst)
    (h : List.Forall₂ (EqualUpTo r) (xs.map Prod.snd) (ys.map Prod.snd)) :
    EqualUpTo r (.obj xs) (.obj ys)

namespace Number

def ValueEq (n m : Number) : Prop := n.value = m.value

-- Both are written as integers or both as doubles.
inductive SameKind : Number → Number → Prop
  | int (a b : Int) : SameKind (.int a) (.int b)
  | float (x y : Binary64) : SameKind (.float x) (.float y)

theorem same_eq_true_iff : n.same m = true ↔ n.ValueEq m ∧ n.SameKind m := by
  cases n with
  | int a =>
    cases m with
    | int b =>
      have hvalue : (Number.int a).ValueEq (.int b) ↔ a = b := Int.cast_inj
      rw [same, beq_iff_eq, hvalue]
      exact (and_iff_left (.int a b)).symm
    | float y => exact iff_of_false (by simp [same]) (by rintro ⟨-, ⟨⟩⟩)
  | float x =>
    cases m with
    | int b => exact iff_of_false (by simp [same]) (by rintro ⟨-, ⟨⟩⟩)
    | float y =>
      have hvalue : (Number.float x).ValueEq (.float y) ↔ x.rank = y.rank := Binary64.value_eq_iff
      rw [same, Binary64.numEq, beq_iff_eq, hvalue]
      exact (and_iff_left (.float x y)).symm

end Number

namespace Json

open Number (ValueEq SameKind)

theorem equalUpTo_num_iff : (num n).EqualUpTo r (num m) ↔ r n m := by
  constructor
  · rintro ⟨⟩
    assumption
  · exact .num

theorem equalUpTo_arr_iff {xs ys : List Json} :
    (arr xs).EqualUpTo r (arr ys) ↔ List.Forall₂ (EqualUpTo r) xs ys := by
  constructor
  · rintro ⟨⟩
    assumption
  · exact .arr

theorem equalUpTo_obj_iff {xs ys : List (String × Json)} :
    (obj xs).EqualUpTo r (obj ys) ↔ xs.map Prod.fst = ys.map Prod.fst ∧
      List.Forall₂ (EqualUpTo r) (xs.map Prod.snd) (ys.map Prod.snd) := by
  constructor
  · rintro ⟨⟩
    exact ⟨‹_›, ‹_›⟩
  · rintro ⟨hnames, h⟩
    exact .obj hnames h

mutual

-- Induction on the first value, together with the lists of its items and of its members.
theorem same_eq_true_iff (x y : Json) :
    x.same y = true ↔ x.EqualUpTo ValueEq y ∧ x.EqualUpTo SameKind y := by
  cases x with
  | null =>
    cases y with
    | null => exact iff_of_true (by simp [same]) ⟨.null, .null⟩
    | _ => exact iff_of_false (by simp [same]) (by rintro ⟨⟨⟩, -⟩)
  | bool a =>
    cases y with
    | bool b =>
      rw [same, beq_iff_eq]
      constructor
      · rintro rfl
        exact ⟨.bool a, .bool a⟩
      · rintro ⟨⟨⟩, -⟩
        rfl
    | _ => exact iff_of_false (by simp [same]) (by rintro ⟨⟨⟩, -⟩)
  | num n =>
    cases y with
    | num m => rw [same, Number.same_eq_true_iff, equalUpTo_num_iff, equalUpTo_num_iff]
    | _ => exact iff_of_false (by simp [same]) (by rintro ⟨⟨⟩, -⟩)
  | str s =>
    cases y with
    | str t =>
      rw [same, beq_iff_eq]
      constructor
      · rintro rfl
        exact ⟨.str s, .str s⟩
      · rintro ⟨⟨⟩, -⟩
        rfl
    | _ => exact iff_of_false (by simp [same]) (by rintro ⟨⟨⟩, -⟩)
  | arr xs =>
    cases y with
    | arr ys => rw [same, sameItems_eq_true_iff xs ys, equalUpTo_arr_iff, equalUpTo_arr_iff]
    | _ => exact iff_of_false (by simp [same]) (by rintro ⟨⟨⟩, -⟩)
  | obj xs =>
    cases y with
    | obj ys =>
      rw [same, sameMembers_eq_true_iff xs ys, equalUpTo_obj_iff, equalUpTo_obj_iff]
      exact and_and_left
    | _ => exact iff_of_false (by simp [same]) (by rintro ⟨⟨⟩, -⟩)

theorem sameItems_eq_true_iff (xs ys : List Json) :
    sameItems xs ys = true ↔
      List.Forall₂ (EqualUpTo ValueEq) xs ys ∧ List.Forall₂ (EqualUpTo SameKind) xs ys := by
  cases xs with
  | nil => cases ys <;> simp [sameItems]
  | cons x xs =>
    cases ys with
    | nil => simp [sameItems]
    | cons y ys =>
      rw [sameItems, Bool.and_eq_true, same_eq_true_iff x y, sameItems_eq_true_iff xs ys,
        List.forall₂_cons, List.forall₂_cons]
      exact and_and_and_comm

theorem sameMembers_eq_true_iff (xs ys : List (String × Json)) :
    sameMembers xs ys = true ↔ xs.map Prod.fst = ys.map Prod.fst ∧
      List.Forall₂ (EqualUpTo ValueEq) (xs.map Prod.snd) (ys.map Prod.snd) ∧
      List.Forall₂ (EqualUpTo SameKind) (xs.map Prod.snd) (ys.map Prod.snd) := by
  match xs, ys with
  | [], [] => simp [sameMembers]
  | [], _ :: _ => simp [sameMembers]
  | _ :: _, [] => simp [sameMembers]
  | (name, x) :: xs, (other, y) :: ys =>
    rw [sameMembers, Bool.and_eq_true, Bool.and_eq_true, beq_iff_eq, same_eq_true_iff x y,
      sameMembers_eq_true_iff xs ys]
    simp only [List.map_cons, List.cons.injEq, List.forall₂_cons]
    constructor
    · rintro ⟨⟨hname, hvalue, hkind⟩, hnames, hvalues, hkinds⟩
      exact ⟨⟨hname, hnames⟩, ⟨hvalue, hvalues⟩, hkind, hkinds⟩
    · rintro ⟨⟨hname, hnames⟩, ⟨hvalue, hvalues⟩, hkind, hkinds⟩
      exact ⟨⟨hname, hvalue, hkind⟩, hnames, hvalues, hkinds⟩

end

-- Where two values are told apart as their numbers tell them apart: two numbers of different values
-- have different doubles, and values in which numbers of equal values stand at the same places have
-- them written alike.
def Discerned : Json → Json → Prop
  | num n, num m => n.value = m.value ∨ n.toBinary64.value ≠ m.toBinary64.value
  | x, y => x.EqualUpTo ValueEq y → x.EqualUpTo SameKind y

theorem looselyEqual_num_iff :
    (num n).looselyEqual (num m) = true ↔ n.toBinary64.value = m.toBinary64.value := by
  rw [looselyEqual, Binary64.numEq, beq_iff_eq, Binary64.value_eq_iff]

theorem looselyEqual_eq_same (h : ¬ ∃ n m, x = num n ∧ y = num m) : x.looselyEqual y = x.same y := by
  unfold looselyEqual
  split
  · next n m => exact absurd ⟨n, m, rfl, rfl⟩ h
  · rfl

-- Predicates compare for equality by value, numbers at any depth included, exactly where the values
-- are discerned.
theorem looselyEqual_iff_equalUpTo_iff (x y : Json) :
    (x.looselyEqual y = true ↔ x.EqualUpTo ValueEq y) ↔ x.Discerned y := by
  by_cases h : ∃ n m, x = num n ∧ y = num m
  · obtain ⟨n, m, rfl, rfl⟩ := h
    rw [looselyEqual_num_iff, equalUpTo_num_iff]
    constructor
    · intro hiff
      by_cases hvalue : n.value = m.value
      · exact .inl hvalue
      · exact .inr fun hdouble => hvalue (hiff.mp hdouble)
    · rintro (hvalue | hdouble)
      · exact iff_of_true (Number.value_toBinary64 hvalue) hvalue
      · exact iff_of_false hdouble fun hvalue => hdouble (Number.value_toBinary64 hvalue)
  · have hdiscerned : x.Discerned y = (x.EqualUpTo ValueEq y → x.EqualUpTo SameKind y) := by
      unfold Discerned
      split
      · next n m => exact absurd ⟨n, m, rfl, rfl⟩ h
      · rfl
    rw [hdiscerned, looselyEqual_eq_same h, same_eq_true_iff]
    exact and_iff_left_iff_imp

-- Two arrays of one number, which is an integer in the first and a double in the second.
theorem not_looselyEqual_ones :
    (arr [.ofNat 1]).EqualUpTo ValueEq (arr [num (.float (.ofInt 1))]) ∧
      (arr [.ofNat 1]).looselyEqual (arr [num (.float (.ofInt 1))]) = false := by
  have hvalue : (Number.int 1).ValueEq (.float (.ofInt 1)) := by
    have hround : Binary64.roundedInt 1 = 1 := Binary64.roundedInt_of_natAbs_le (by decide)
    have hdouble : (Binary64.ofInt 1).value = Binary64.roundedInt 1 := Binary64.value_ofInt (by decide)
    rw [hround] at hdouble
    exact hdouble.symm
  exact ⟨.arr (.cons (.num hvalue) .nil), rfl⟩

end Json

end Stepwise
