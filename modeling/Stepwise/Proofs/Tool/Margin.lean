import Stepwise.Proofs.Decimal.Difference
import Stepwise.Proofs.Except
import Stepwise.Tool.Compute

namespace Stepwise.Compute

variable {b s m : Json} {buy sell margins : List Json} {x y z : Binary64}

theorem price_eq_ok_iff {v : Json} : price v = .ok x ↔ price? v = some x := by
  unfold price
  cases price? v with
  | none => simp
  | some y => simp

-- What stands for a pair of prices: their difference, or nothing where that is too large.
inductive Margin (b s : Json) : Json → Prop
  | number {x y z : Binary64} (hbuy : price? b = some x) (hsell : price? s = some y)
    (hdifference : y.sub? x = some z) : Margin b s (.num (.float z))
  | absent {x y : Binary64} (hbuy : price? b = some x) (hsell : price? s = some y)
    (hfar : Binary64.overflow ≤ |y.value - x.value|) : Margin b s .null

theorem margin_eq_ok_iff : margin b s = .ok m ↔ Margin b s m := by
  unfold margin
  rw [bind_eq_ok_iff]
  constructor
  · rintro ⟨y, hy, h⟩
    obtain ⟨x, hx, hm⟩ := bind_eq_ok_iff.1 h
    rw [price_eq_ok_iff] at hx hy
    cases hsub : y.sub? x with
    | some z =>
      rw [hsub] at hm
      cases hm
      exact .number hx hy hsub
    | none =>
      rw [hsub] at hm
      cases hm
      exact .absent hx hy (Binary64.sub?_eq_none_iff.1 hsub)
  · intro h
    cases h with
    | number hbuy hsell hdifference =>
      refine ⟨_, price_eq_ok_iff.2 hsell, bind_eq_ok_iff.2 ⟨_, price_eq_ok_iff.2 hbuy, ?_⟩⟩
      rw [hdifference]
      rfl
    | absent hbuy hsell hfar =>
      refine ⟨_, price_eq_ok_iff.2 hsell, bind_eq_ok_iff.2 ⟨_, price_eq_ok_iff.2 hbuy, ?_⟩⟩
      rw [Binary64.sub?_eq_none_iff.2 hfar]
      rfl

theorem exists_margin (hbuy : (price? b).isSome) (hsell : (price? s).isSome) :
    ∃ m, Margin b s m := by
  obtain ⟨x, hx⟩ := Option.isSome_iff_exists.1 hbuy
  obtain ⟨y, hy⟩ := Option.isSome_iff_exists.1 hsell
  cases hsub : y.sub? x with
  | some z => exact ⟨_, .number hx hy hsub⟩
  | none => exact ⟨_, .absent hx hy (Binary64.sub?_eq_none_iff.1 hsub)⟩

-- Two prices that are too far apart for a double.
def TooFar (b s : Json) : Prop :=
  ∃ x y, price? b = some x ∧ price? s = some y ∧ Binary64.overflow ≤ |y.value - x.value|

theorem Margin.price_iff (h : Margin b s m) : (price? m).isSome ↔ ¬ TooFar b s := by
  cases h with
  | number hbuy hsell hdifference =>
    refine ⟨fun _ => ?_, fun _ => rfl⟩
    rintro ⟨x', y', hx', hy', hfar⟩
    cases hbuy.symm.trans hx'
    cases hsell.symm.trans hy'
    cases hdifference.symm.trans (Binary64.sub?_eq_none_iff.2 hfar)
  | absent hbuy hsell hfar =>
    exact ⟨nofun, fun hnear => absurd ⟨_, _, hbuy, hsell, hfar⟩ hnear⟩

theorem Margin.number_iff (h : Margin b s m) : (∃ n, m = .num n) ↔ (price? m).isSome := by
  cases h with
  | number => exact ⟨fun _ => rfl, fun _ => ⟨_, rfl⟩⟩
  | absent => exact ⟨nofun, nofun⟩

theorem exists_normalizePrices_iff {items : List Json} :
    (∃ v, normalizePrices [.arr items] = .ok v) ↔ ∀ v ∈ items, (price? v).isSome := by
  have hflatten : flatten [.arr items] = items := by simp [flatten]
  have hprices : (∃ prices, items.mapM price = .ok prices) ↔ ∀ v ∈ items, (price? v).isSome := by
    rw [exists_mapM_ok_iff]
    simp only [price_eq_ok_iff, Option.isSome_iff_exists]
  rw [← hprices, normalizePrices, hflatten]
  constructor
  · rintro ⟨v, hv⟩
    obtain ⟨prices, hmap, -⟩ := map_eq_ok_iff.1 hv
    exact ⟨prices, hmap⟩
  · rintro ⟨prices, hmap⟩
    exact ⟨_, map_eq_ok_iff.2 ⟨prices, hmap, rfl⟩⟩

-- What holds of every difference holds of the list of them.
theorem forall_margins_iff {pairs : List (Json × Json)} {p : Json → Prop}
    (h : List.Forall₂ (fun pair m => Margin pair.1 pair.2 m) pairs margins)
    (hp : ∀ {b s m}, Margin b s m → (p m ↔ ¬ TooFar b s)) :
    (∀ m ∈ margins, p m) ↔ ∀ pair ∈ pairs, ¬ TooFar pair.1 pair.2 := by
  induction h with
  | nil => simp
  | cons hmargin _ ih => rw [List.forall_mem_cons, List.forall_mem_cons, hp hmargin, ih]

-- Prices have as many margins as there are pairs of them. All margins are numbers, and so prices
-- again, exactly if no two prices of a pair are too far apart.
theorem margins_numbers_iff {buy sell : List Json}
    (hprices : ∀ pair ∈ buy.zip sell, (price? pair.1).isSome ∧ (price? pair.2).isSome)
    (rest : List Json) (params : List (String × Json)) :
    ∃ margins, apply .marginCalculation (.arr buy :: .arr sell :: rest) params =
        .ok (.arr margins) ∧
      margins.length = min buy.length sell.length ∧
      List.Forall₂ (fun pair m => Margin pair.1 pair.2 m) (buy.zip sell) margins ∧
      ((∀ m ∈ margins, ∃ n, m = .num n) ↔ ∀ pair ∈ buy.zip sell, ¬ TooFar pair.1 pair.2) ∧
      ((∃ v, apply .normalizePrices [.arr margins] params = .ok v) ↔
        ∀ pair ∈ buy.zip sell, ¬ TooFar pair.1 pair.2) := by
  obtain ⟨margins, hmargins⟩ := exists_forall₂ (r := fun pair m => Margin pair.1 pair.2 m)
    fun pair hpair => exists_margin (hprices pair hpair).1 (hprices pair hpair).2
  have hmap : ((buy.zip sell).mapM fun (b, s) => margin b s) = .ok margins := by
    rw [mapM_eq_ok_iff]
    simpa only [margin_eq_ok_iff] using hmargins
  refine ⟨margins, map_eq_ok_iff.2 ⟨margins, hmap, rfl⟩, ?_, hmargins, ?_, ?_⟩
  · rw [← hmargins.length_eq, List.length_zip]
  · exact forall_margins_iff hmargins fun h => h.number_iff.trans h.price_iff
  · rw [apply, exists_normalizePrices_iff]
    exact forall_margins_iff hmargins fun h => h.price_iff

-- Prices as they are written by hand. The last one asked has no partner, so it need not be a price.
def paid : List Json := [.str "$100", .str "1,200.5"]

def asked : List Json := [.ofNat 150, .str " 180 ", .null]

theorem margins_numbers_iff_written :
    (∀ pair ∈ paid.zip asked, (price? pair.1).isSome ∧ (price? pair.2).isSome) ∧
    ∃ margins, apply .marginCalculation [.arr paid, .arr asked] [] = .ok (.arr margins) ∧
      margins.length = min paid.length asked.length ∧
      List.Forall₂ (fun pair m => Margin pair.1 pair.2 m) (paid.zip asked) margins ∧
      ((∀ m ∈ margins, ∃ n, m = .num n) ↔ ∀ pair ∈ paid.zip asked, ¬ TooFar pair.1 pair.2) ∧
      ((∃ v, apply .normalizePrices [.arr margins] [] = .ok v) ↔
        ∀ pair ∈ paid.zip asked, ¬ TooFar pair.1 pair.2) := by
  have hprices : ∀ pair ∈ paid.zip asked, (price? pair.1).isSome ∧ (price? pair.2).isSome := by
    decide +kernel
  exact ⟨hprices, margins_numbers_iff hprices [] []⟩

-- Two prices with nothing for their difference, which is no price.
theorem margin_null_extremes :
    (price? (.str "-1e308")).isSome ∧ (price? (.str "1e308")).isSome ∧
    apply .marginCalculation [.arr [.str "-1e308"], .arr [.str "1e308"]] [] =
      .ok (.arr [.null]) ∧
    apply .normalizePrices [.arr [.null]] [] = .error (.notPrice .null) := by
  have hbuy : price? (.str "-1e308") = some ⟨true, 0x7FE1CCF385EBC8A0, by decide⟩ := by
    decide +kernel
  have hsell : price? (.str "1e308") = some ⟨false, 0x7FE1CCF385EBC8A0, by decide⟩ := by
    decide +kernel
  have hmargin : Margin (.str "-1e308") (.str "1e308") .null :=
    .absent hbuy hsell (Binary64.sub?_eq_none_iff.1 (by decide +kernel))
  have hmap : ([Json.str "-1e308"].zip [.str "1e308"]).mapM (fun (b, s) => margin b s) =
      .ok [.null] :=
    mapM_eq_ok_iff.2 (.cons (margin_eq_ok_iff.2 hmargin) .nil)
  refine ⟨by rw [hbuy]; rfl, by rw [hsell]; rfl, ?_, rfl⟩
  rw [apply, marginCalculation, hmap]
  rfl

end Stepwise.Compute
