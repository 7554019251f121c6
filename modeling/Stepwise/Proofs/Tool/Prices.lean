import Stepwise.Proofs.Decimal.Numeral
import Stepwise.Proofs.Tool.Margin

namespace Stepwise.Compute

variable {inputs items prices' : List Json} {prices : List Binary64} {v w : Json}
  {cs cs' : List Char} {fault : ComputeFault}

-- What inserting and removing dollar signs, commas and white space makes of a text.
inductive Refilled (cs : List Char) : List Char → Prop
  | refl : Refilled cs cs
  | insert {front back : List Char} {c : Char} (hc : c = '$' ∨ c = ',' ∨ Text.isBlank c = true)
    (h : Refilled cs (front ++ back)) : Refilled cs (front ++ c :: back)
  | remove {front back : List Char} {c : Char} (hc : c = '$' ∨ c = ',' ∨ Text.isBlank c = true)
    (h : Refilled cs (front ++ c :: back)) : Refilled cs (front ++ back)

-- A value, or a text that differs from it in such characters.
inductive Reformatted : Json → Json → Prop
  | same (v : Json) : Reformatted v v
  | text {s t : String} (h : Refilled s.toList t.toList) : Reformatted (.str s) (.str t)

theorem filter_filler {front back : List Char} {c : Char}
    (hc : c = '$' ∨ c = ',' ∨ Text.isBlank c = true) :
    (front ++ c :: back).filter (!isPriceFiller ·) = (front ++ back).filter (!isPriceFiller ·) := by
  have hfiller : isPriceFiller c = true := by
    rcases hc with rfl | rfl | hblank
    · rfl
    · rfl
    · simp [isPriceFiller, hblank]
  rw [List.filter_append, List.filter_append, List.filter_cons_of_neg (by simp [hfiller])]

theorem Refilled.filter_eq (h : Refilled cs cs') :
    cs'.filter (!isPriceFiller ·) = cs.filter (!isPriceFiller ·) := by
  induction h with
  | refl => rfl
  | insert hc _ ih => rw [filter_filler hc, ih]
  | remove hc _ ih => rw [← ih, filter_filler hc]

theorem Reformatted.price?_eq (h : Reformatted v w) : price? w = price? v := by
  cases h with
  | same => rfl
  | text h => rw [price?, price?, h.filter_eq]

def priceList (prices : List Binary64) : Json := .arr (prices.map fun x => .num (.float x))

theorem forall₂_price_iff :
    List.Forall₂ (fun v x => price v = .ok x) items prices ↔ items.map price? = prices.map some := by
  simp only [price_eq_ok_iff]
  rw [← List.forall₂_eq_eq_eq, List.forall₂_map_left_iff, List.forall₂_map_right_iff]

-- The prices of the items, in their order. A price that is given as a double stays as it is.
theorem normalizePrices_eq_ok_iff :
    normalizePrices inputs = .ok v ↔
      ∃ prices, (flatten inputs).map price? = prices.map some ∧ v = priceList prices := by
  rw [normalizePrices, map_eq_ok_iff]
  simp only [mapM_eq_ok_iff, forall₂_price_iff]
  exact exists_congr fun prices => and_congr_right fun _ => eq_comm

theorem exists_of_normalizePrices_error (h : normalizePrices inputs = .error fault) :
    ∃ before v after, flatten inputs = before ++ v :: after ∧
      (∀ u ∈ before, (price? u).isSome) ∧ price? v = none ∧ fault = .notPrice v := by
  rw [normalizePrices, map_eq_error_iff] at h
  obtain ⟨before, v, after, hitems, hbefore, hv⟩ := exists_of_mapM_error h
  simp only [price_eq_ok_iff, ← Option.isSome_iff_exists] at hbefore
  refine ⟨before, v, after, hitems, hbefore, ?_⟩
  unfold price at hv
  split at hv
  · cases hv
  · next hnone =>
    cases hv
    exact ⟨hnone, rfl⟩

theorem normalizePrices_priceList (prices : List Binary64) :
    normalizePrices [priceList prices] = .ok (priceList prices) := by
  refine normalizePrices_eq_ok_iff.2 ⟨prices, ?_, rfl⟩
  simp [flatten, priceList, price?, Number.toBinary64]

theorem map_price?_of_reformatted (h : List.Forall₂ Reformatted items prices') :
    prices'.map price? = items.map price? := by
  induction h with
  | nil => rfl
  | cons hv _ ih => rw [List.map_cons, List.map_cons, hv.price?_eq, ih]

-- The prices are the numbers, and the texts that spell a decimal number within the range of doubles
-- once the characters that do not count are left out.
inductive IsPrice : Json → Prop
  | number (n : Number) : IsPrice (.num n)
  | text {s : String} {n : Decimal.Numeral}
    (hspells : Decimal.Spells (s.toList.filter (!isPriceFiller ·)) n)
    (hfinite : |n.value| < Binary64.overflow) : IsPrice (.str s)

theorem price?_isSome_iff : (price? v).isSome ↔ IsPrice v := by
  constructor
  · intro h
    cases v with
    | num n => exact .number n
    | str s =>
      obtain ⟨n, hspells, hfinite⟩ := Decimal.read?_isSome_iff.1 h
      exact .text hspells hfinite
    | null | bool | arr | obj => cases h
  · intro h
    cases h with
    | number => rfl
    | text hspells hfinite => exact Decimal.read?_isSome_iff.2 ⟨_, hspells, hfinite⟩

-- Either all items are prices and are listed as doubles, in their order, or the first one that is
-- none is at fault. A list of prices stays as it is, and the way prices are written does not matter.
theorem normalizePrices_exact (inputs : List Json) (params : List (String × Json)) :
    ((∃ prices, (flatten inputs).map price? = prices.map some ∧
        apply .normalizePrices inputs params = .ok (priceList prices) ∧
        apply .normalizePrices [priceList prices] params = .ok (priceList prices)) ∨
      ∃ before v after, flatten inputs = before ++ v :: after ∧
        (∀ u ∈ before, (price? u).isSome) ∧ price? v = none ∧
        apply .normalizePrices inputs params = .error (.notPrice v)) ∧
    (∀ inputs', List.Forall₂ Reformatted (flatten inputs) (flatten inputs') →
      ∀ v, apply .normalizePrices inputs params = .ok v ↔
        apply .normalizePrices inputs' params = .ok v) ∧
    ∀ v, (price? v).isSome ↔ IsPrice v := by
  simp only [apply]
  refine ⟨?_, fun inputs' h v => ?_, fun v => price?_isSome_iff⟩
  · cases hresult : normalizePrices inputs with
    | ok v =>
      obtain ⟨prices, hprices, rfl⟩ := normalizePrices_eq_ok_iff.1 hresult
      exact .inl ⟨prices, hprices, rfl, normalizePrices_priceList prices⟩
    | error fault =>
      obtain ⟨before, v, after, hitems, hbefore, hv, rfl⟩ := exists_of_normalizePrices_error hresult
      exact .inr ⟨before, v, after, hitems, hbefore, hv, rfl⟩
  · rw [normalizePrices_eq_ok_iff, normalizePrices_eq_ok_iff, map_price?_of_reformatted h]

end Stepwise.Compute
