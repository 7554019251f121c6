import Mathlib.Data.List.Sort
import Mathlib.Order.OrderDual
import Stepwise.Proofs.Except
import Stepwise.Proofs.Predicate.Order
import Stepwise.Tool.Compute

namespace Stepwise.Compute

section Keys

variable {α κ : Type} [LinearOrder κ] {f : α → κ} {le : α → α → Bool} {l : List α} {p : α → Bool}

theorem decide_le_trans (a b c : α) (hab : decide (f a ≤ f b) = true)
    (hbc : decide (f b ≤ f c) = true) : decide (f a ≤ f c) = true := by
  simp only [decide_eq_true_eq] at hab hbc ⊢
  exact hab.trans hbc

theorem decide_le_total (a b : α) : (decide (f a ≤ f b) || decide (f b ≤ f a)) = true := by
  simpa using le_total (f a) (f b)

-- The test has to agree with the order of the keys on the items of the list only. Elsewhere it may
-- be no order at all, so the laws of sorting are used for the keys.
theorem mergeSort_eq_of_key (hle : ∀ a ∈ l, ∀ b ∈ l, le a b = decide (f a ≤ f b)) :
    l.mergeSort le = l.mergeSort fun a b => decide (f a ≤ f b) := by
  have hmap := List.map_mergeSort (s := fun a b => decide (f a ≤ f b)) (f := id) hle
  rwa [List.map_id, List.map_id] at hmap

theorem pairwise_mergeSort_of_key (hle : ∀ a ∈ l, ∀ b ∈ l, le a b = decide (f a ≤ f b)) :
    (l.mergeSort le).Pairwise fun a b => f a ≤ f b := by
  rw [mergeSort_eq_of_key hle]
  have hsorted := List.pairwise_mergeSort (decide_le_trans (f := f)) decide_le_total l
  exact hsorted.imp fun h => of_decide_eq_true h

-- Items of one key stand already in an order that the test allows, so they keep it.
theorem filter_mergeSort_of_key (hle : ∀ a ∈ l, ∀ b ∈ l, le a b = decide (f a ≤ f b))
    (hp : ∀ a ∈ l, ∀ b ∈ l, p a = true → p b = true → f a = f b) :
    (l.mergeSort le).filter p = l.filter p := by
  have hequal : (l.filter p).Pairwise fun a b => decide (f a ≤ f b) = true := by
    refine List.pairwise_of_forall_mem_list fun a ha b hb => ?_
    obtain ⟨ha, hpa⟩ := List.mem_filter.1 ha
    obtain ⟨hb, hpb⟩ := List.mem_filter.1 hb
    simp [hp a ha b hb hpa hpb]
  have hkept : (l.filter p).Sublist ((l.mergeSort le).filter p) := by
    rw [mergeSort_eq_of_key hle]
    have hsublist := List.sublist_mergeSort decide_le_trans decide_le_total hequal List.filter_sublist
    have hfilter := hsublist.filter p
    rwa [List.filter_filter, funext fun a => Bool.and_self (p a)] at hfilter
  have hlength : (l.filter p).length = ((l.mergeSort le).filter p).length :=
    ((List.mergeSort_perm l le).filter p).length_eq.symm
  exact (hkept.eq_of_length hlength).symm

end Keys

variable {path : FieldPath} {field : String} {items keys inputs : List Json} {k item : Json}
  {pairs : List (Json × Json)} {params : List (String × Json)} {descending : Bool}

-- Items with their keys in front of them.
def Keyed (path : FieldPath) (items : List Json) (pairs : List (Json × Json)) : Prop :=
  pairs.map Prod.snd = items ∧ ∀ p ∈ pairs, path.walk p.2 = .ok p.1

theorem keyed_eq_ok_iff {p : Json × Json} :
    keyed path field item = .ok p ↔ path.walk item = .ok p.1 ∧ p.2 = item := by
  unfold keyed
  cases path.walk item with
  | ok k =>
    constructor
    · intro h
      cases h
      exact ⟨rfl, rfl⟩
    · rintro ⟨h, rfl⟩
      cases h
      rfl
  | error e => simp

theorem mapM_keyed_eq_ok_iff :
    items.mapM (keyed path field) = .ok pairs ↔ Keyed path items pairs := by
  rw [mapM_eq_ok_iff]
  simp only [keyed_eq_ok_iff]
  constructor
  · intro h
    induction h with
    | nil => exact ⟨rfl, by simp⟩
    | cons hp _ ih =>
      obtain ⟨hkey, hitem⟩ := hp
      refine ⟨by rw [List.map_cons, hitem, ih.1], List.forall_mem_cons.2 ⟨?_, ih.2⟩⟩
      rw [hitem, hkey]
  · rintro ⟨rfl, h⟩
    rw [List.forall₂_map_left_iff, List.forall₂_same]
    exact fun p hp => ⟨h p hp, rfl⟩

theorem exists_keyed_iff :
    (∃ pairs, Keyed path items pairs) ↔ ∀ item ∈ items, ∃ k, path.walk item = .ok k := by
  constructor
  · rintro ⟨pairs, rfl, h⟩ item hitem
    obtain ⟨p, hp, rfl⟩ := List.mem_map.1 hitem
    exact ⟨p.1, h p hp⟩
  · intro h
    induction items with
    | nil => exact ⟨[], rfl, by simp⟩
    | cons item rest ih =>
      rw [List.forall_mem_cons] at h
      obtain ⟨⟨k, hk⟩, hrest⟩ := h
      obtain ⟨pairs, hpairs, hkeys⟩ := ih hrest
      exact ⟨(k, item) :: pairs, by rw [List.map_cons, hpairs], List.forall_mem_cons.2 ⟨hk, hkeys⟩⟩

theorem isSortable_iff : isSortable k = true ↔ k.IsNumber ∨ k.IsText := by
  cases k <;> simp [isSortable, Json.IsNumber, Json.IsText]

theorem typeName_eq_number_iff : k.typeName = "number" ↔ k.IsNumber := by
  cases k <;> simp [Json.typeName, Json.IsNumber]

theorem typeName_eq_string_iff : k.typeName = "string" ↔ k.IsText := by
  cases k <;> simp [Json.typeName, Json.IsText]

-- No key is odd where all are numbers or all are texts.
theorem oddKey?_eq_none_iff :
    oddKey? keys = none ↔ (∀ k ∈ keys, k.IsNumber) ∨ ∀ k ∈ keys, k.IsText := by
  cases keys with
  | nil => simp [oddKey?]
  | cons first rest =>
    have hodd : oddKey? (first :: rest) = none ↔
        ∀ k ∈ first :: rest, k.typeName = first.typeName ∧ (k.IsNumber ∨ k.IsText) := by
      rw [oddKey?, Option.map_eq_none_iff, List.find?_eq_none]
      simp [← isSortable_iff]
    rw [hodd]
    constructor
    · intro h
      rcases (h first List.mem_cons_self).2 with hfirst | hfirst
      · refine .inl fun k hk => typeName_eq_number_iff.1 ?_
        rw [(h k hk).1, typeName_eq_number_iff.2 hfirst]
      · refine .inr fun k hk => typeName_eq_string_iff.1 ?_
        rw [(h k hk).1, typeName_eq_string_iff.2 hfirst]
    · rintro (h | h) k hk
      · have hname := typeName_eq_number_iff.2 (h first List.mem_cons_self)
        exact ⟨(typeName_eq_number_iff.2 (h k hk)).trans hname.symm, .inl (h k hk)⟩
      · have hname := typeName_eq_string_iff.2 (h first List.mem_cons_self)
        exact ⟨(typeName_eq_string_iff.2 (h k hk)).trans hname.symm, .inr (h k hk)⟩

-- Every item has a key at the field, and the keys are all numbers or all texts.
def Sortable (field : String) (items : List Json) : Prop :=
  (∀ item ∈ items, ∃ k, (FieldPath.ofString field).walk item = .ok k ∧ k.IsNumber) ∨
    ∀ item ∈ items, ∃ k, (FieldPath.ofString field).walk item = .ok k ∧ k.IsText

-- How each key compares with the keys behind it.
def direction (params : List (String × Json)) : Comparison :=
  match Json.field? params "descending" with
  | some (.bool true) => .ge
  | _ => .le

-- The items in the order of their keys, as predicates compare them. Those that have one key, for a
-- predicate, stand as they did.
structure StablySorted (field : String) (op : Comparison) (items sorted : List Json) : Prop where
  perm : sorted.Perm items
  ordered : sorted.Pairwise fun a b => ∃ x y, (FieldPath.ofString field).walk a = .ok x ∧
    (FieldPath.ofString field).walk b = .ok y ∧ op.test x y = true
  stable : ∀ key, sorted.filter (fun item => (Predicate.compare field .eq key).evaluate item) =
    items.filter fun item => (Predicate.compare field .eq key).evaluate item

theorem evaluate_of_walk {op : Comparison} {key : Json}
    (h : (FieldPath.ofString field).walk item = .ok k) :
    (Predicate.compare field op key).evaluate item = op.test k key := by
  simp only [Predicate.evaluate, h]

-- The three facts are those of the sorted pairs, read off their items.
theorem stablySorted_of_key {κ : Type} [LinearOrder κ] {g : Json × Json → κ} {op : Comparison}
    (hkeyed : Keyed (.ofString field) items pairs)
    (hle : ∀ a ∈ pairs, ∀ b ∈ pairs, inOrder descending a b = decide (g a ≤ g b))
    (hop : ∀ a ∈ pairs, ∀ b ∈ pairs, g a ≤ g b → op.test a.1 b.1 = true)
    (hequal : ∀ a ∈ pairs, ∀ b ∈ pairs, ∀ key, Comparison.eq.test a.1 key = true →
      Comparison.eq.test b.1 key = true → g a = g b) :
    StablySorted field op items ((pairs.mergeSort (inOrder descending)).map Prod.snd) := by
  obtain ⟨rfl, hwalk⟩ := hkeyed
  have hmem : ∀ {p}, p ∈ pairs.mergeSort (inOrder descending) → p ∈ pairs :=
    fun hp => List.mem_mergeSort.1 hp
  refine ⟨(List.mergeSort_perm pairs _).map Prod.snd, ?_, fun key => ?_⟩
  · rw [List.pairwise_map]
    refine (pairwise_mergeSort_of_key hle).imp_of_mem fun {a b} ha hb hab => ?_
    exact ⟨a.1, b.1, hwalk a (hmem ha), hwalk b (hmem hb), hop a (hmem ha) b (hmem hb) hab⟩
  · rw [List.filter_map, List.filter_map, filter_mergeSort_of_key hle]
    intro a ha b hb hakey hbkey
    simp only [Function.comp_apply, evaluate_of_walk (hwalk a ha)] at hakey
    simp only [Function.comp_apply, evaluate_of_walk (hwalk b hb)] at hbkey
    exact hequal a ha b hb key hakey hbkey

theorem inOrder_eq_test {κ : Type} [LinearOrder κ] {f : Json → κ} {kind : Json → Prop}
    {a b : Json × Json} (hf : Json.MeasuredBy kind f) (ha : kind a.1) (hb : kind b.1) :
    inOrder descending a b = Comparison.test a.1 (if descending then .ge else .le) b.1 := by
  have horder := hf.order a.1 b.1 ha hb
  cases descending <;>
    cases hcompare : Ord.compare (f a.1) (f b.1) <;>
      simp [inOrder, Comparison.test, horder, hcompare]

-- Descending is ascending in the opposite order; equal keys are equal in both.
theorem stablySorted_of_measured {κ : Type} [LinearOrder κ] {f : Json → κ} {kind : Json → Prop}
    (hf : Json.MeasuredBy kind f) (hkeyed : Keyed (.ofString field) items pairs)
    (hkind : ∀ p ∈ pairs, kind p.1) :
    StablySorted field (if descending then .ge else .le) items
      ((pairs.mergeSort (inOrder descending)).map Prod.snd) := by
  have hequal : ∀ a ∈ pairs, ∀ b ∈ pairs, ∀ key, Comparison.eq.test a.1 key = true →
      Comparison.eq.test b.1 key = true → f a.1 = f b.1 := by
    intro a ha b hb key hakey hbkey
    have hfa := ((hf.test_eq_iff (hkind a ha)).1 hakey).2
    have hfb := ((hf.test_eq_iff (hkind b hb)).1 hbkey).2
    exact hfa.trans hfb.symm
  cases descending with
  | false =>
    refine stablySorted_of_key (g := fun p => f p.1) hkeyed ?_ ?_ hequal
    · intro a ha b hb
      rw [inOrder_eq_test hf (hkind a ha) (hkind b hb), Bool.eq_iff_iff, decide_eq_true_iff]
      exact hf.test_le_iff (hkind a ha) (hkind b hb)
    · intro a ha b hb hab
      exact (hf.test_le_iff (hkind a ha) (hkind b hb)).2 hab
  | true =>
    refine stablySorted_of_key (g := fun p => OrderDual.toDual (f p.1)) hkeyed ?_ ?_ ?_
    · intro a ha b hb
      rw [inOrder_eq_test hf (hkind a ha) (hkind b hb), Bool.eq_iff_iff, decide_eq_true_iff]
      exact hf.test_ge_iff (hkind a ha) (hkind b hb)
    · intro a ha b hb hab
      exact (hf.test_ge_iff (hkind a ha) (hkind b hb)).2 hab
    · intro a ha b hb key hakey hbkey
      rw [hequal a ha b hb key hakey hbkey]

theorem direction_eq (params : List (String × Json)) :
    direction params =
      if ((Json.field? params "descending").bind Json.toBool?).getD false then .ge else .le := by
  unfold direction
  generalize Json.field? params "descending" = value
  cases value with
  | none => rfl
  | some v =>
    cases v with
    | bool b => cases b <;> rfl
    | _ => rfl

-- The answer is sorted from pairs of which none has an odd key, and it is their items.
theorem sort_eq_ok_iff {v : Json} (hfield : (Json.field? params "key").bind Json.toStr? = some field) :
    sort inputs params = .ok v ↔
      ∃ pairs, Keyed (.ofString field) (flatten inputs) pairs ∧ oddKey? (pairs.map Prod.fst) = none ∧
        v = .arr ((pairs.mergeSort (inOrder (((Json.field? params "descending").bind
          Json.toBool?).getD false))).map Prod.snd) := by
  rw [sort, hfield]
  dsimp only
  rw [bind_eq_ok_iff]
  simp only [mapM_keyed_eq_ok_iff]
  refine exists_congr fun pairs => and_congr_right fun _ => ?_
  cases hodd : oddKey? (pairs.map Prod.fst) with
  | none =>
    constructor
    · intro h
      cases h
      exact ⟨rfl, rfl⟩
    · rintro ⟨-, rfl⟩
      rfl
  | some odd =>
    constructor
    · intro h
      cases h
    · rintro ⟨hnone, -⟩
      cases hnone

theorem Keyed.forall_iff {kind : Json → Prop} (h : Keyed path items pairs) :
    (∀ k ∈ pairs.map Prod.fst, kind k) ↔ ∀ item ∈ items, ∃ k, path.walk item = .ok k ∧ kind k := by
  obtain ⟨rfl, hwalk⟩ := h
  simp only [List.forall_mem_map]
  constructor
  · intro hkind p hp
    exact ⟨p.1, hwalk p hp, hkind p hp⟩
  · intro hkind p hp
    obtain ⟨k, hk, hkindk⟩ := hkind p hp
    rw [hwalk p hp] at hk
    cases hk
    exact hkindk

theorem exists_keyed_of_sortable (h : Sortable field items) :
    ∃ pairs, Keyed (.ofString field) items pairs := by
  refine exists_keyed_iff.2 fun item hitem => ?_
  rcases h with h | h
  · obtain ⟨k, hk, -⟩ := h item hitem
    exact ⟨k, hk⟩
  · obtain ⟨k, hk, -⟩ := h item hitem
    exact ⟨k, hk⟩

theorem Keyed.sortable_iff (h : Keyed (.ofString field) items pairs) :
    Sortable field items ↔ oddKey? (pairs.map Prod.fst) = none := by
  rw [oddKey?_eq_none_iff, h.forall_iff, h.forall_iff, Sortable]

theorem stablySorted_of_sortable (hkeyed : Keyed (.ofString field) items pairs)
    (h : Sortable field items) :
    StablySorted field (if descending then .ge else .le) items
      ((pairs.mergeSort (inOrder descending)).map Prod.snd) := by
  rw [hkeyed.sortable_iff, oddKey?_eq_none_iff] at h
  simp only [List.forall_mem_map] at h
  rcases h with h | h
  · exact stablySorted_of_measured Json.measuredBy_numberRank hkeyed h
  · exact stablySorted_of_measured Json.measuredBy_textOf hkeyed h

theorem exists_stablySorted (hfield : (Json.field? params "key").bind Json.toStr? = some field)
    (h : Sortable field (flatten inputs)) :
    ∃ sorted, sort inputs params = .ok (.arr sorted) ∧
      StablySorted field (direction params) (flatten inputs) sorted := by
  obtain ⟨pairs, hkeyed⟩ := exists_keyed_of_sortable h
  have hsort := (sort_eq_ok_iff hfield).mpr ⟨pairs, hkeyed, hkeyed.sortable_iff.mp h, rfl⟩
  rw [direction_eq]
  exact ⟨_, hsort, stablySorted_of_sortable hkeyed h⟩

-- Sorting succeeds exactly for sortable items and then is stable, in the direction asked for.
theorem sort_stable (inputs : List Json)
    (hfield : (Json.field? params "key").bind Json.toStr? = some field) :
    (Sortable field (flatten inputs) ∧ ∃ sorted, sort inputs params = .ok (.arr sorted) ∧
      StablySorted field (direction params) (flatten inputs) sorted) ∨
    (¬ Sortable field (flatten inputs) ∧ ∃ fault, sort inputs params = .error fault) := by
  by_cases h : Sortable field (flatten inputs)
  · obtain ⟨pairs, hkeyed⟩ := exists_keyed_of_sortable h
    have hsorted := (sort_eq_ok_iff hfield).2 ⟨pairs, hkeyed, hkeyed.sortable_iff.1 h, rfl⟩
    rw [direction_eq]
    exact .inl ⟨h, _, hsorted, stablySorted_of_sortable hkeyed h⟩
  · refine .inr ⟨h, ?_⟩
    cases hsort : sort inputs params with
    | error fault => exact ⟨fault, rfl⟩
    | ok v =>
      obtain ⟨pairs, hkeyed, hodd, -⟩ := (sort_eq_ok_iff hfield).1 hsort
      exact absurd (hkeyed.sortable_iff.2 hodd) h

def priced (name : String) (price : Number) : Json :=
  .obj [("name", .str name), ("price", .num price)]

theorem walk_priced (name : String) (price : Number) :
    (FieldPath.ofString "price").walk (priced name price) = .ok (.num price) := rfl

-- Two items of one price, that of the second written as a double.
def pricedInputs : List Json :=
  [.arr [priced "a" (.int 1), priced "b" (.int 2)], priced "c" (.float (.ofInt 1))]

def descendingByPrice : List (String × Json) := [("descending", .bool true), ("key", .str "price")]

theorem sort_pricedInputs :
    sort pricedInputs descendingByPrice =
      .ok (.arr [priced "b" (.int 2), priced "a" (.int 1), priced "c" (.float (.ofInt 1))]) := by
  have hlower : (Json.num (.int 1)).order? (.num (.int 2)) = some .lt := by decide +kernel
  have hhigher : (Json.num (.int 2)).order? (.num (.float (.ofInt 1))) = some .gt := by
    decide +kernel
  have hequal : (Json.num (.int 1)).order? (.num (.float (.ofInt 1))) = some .eq := by
    decide +kernel
  have hkeyed : Keyed (.ofString "price") (flatten pricedInputs)
      [(.num (.int 1), priced "a" (.int 1)), (.num (.int 2), priced "b" (.int 2)),
        (.num (.float (.ofInt 1)), priced "c" (.float (.ofInt 1)))] :=
    ⟨rfl, by simp [walk_priced]⟩
  refine (sort_eq_ok_iff rfl).2 ⟨_, hkeyed, rfl, ?_⟩
  simp [List.mergeSort, List.MergeSort.Internal.splitInTwo, inOrder, descendingByPrice, Json.field?,
    Json.toBool?, hlower, hhigher, hequal]

theorem sort_stable_pricedInputs :
    (Json.field? descendingByPrice "key").bind Json.toStr? = some "price" ∧
      Sortable "price" (flatten pricedInputs) ∧
      sort pricedInputs descendingByPrice =
        .ok (.arr [priced "b" (.int 2), priced "a" (.int 1), priced "c" (.float (.ofInt 1))]) ∧
      StablySorted "price" .ge
        [priced "a" (.int 1), priced "b" (.int 2), priced "c" (.float (.ofInt 1))]
        [priced "b" (.int 2), priced "a" (.int 1), priced "c" (.float (.ofInt 1))] := by
  have hfield : (Json.field? descendingByPrice "key").bind Json.toStr? = some "price" := rfl
  rcases sort_stable pricedInputs hfield with ⟨hsortable, _, hsort, h⟩ | ⟨-, _, hsort⟩
  · rw [sort_pricedInputs] at hsort
    cases hsort
    exact ⟨hfield, hsortable, sort_pricedInputs, h⟩
  · rw [sort_pricedInputs] at hsort
    cases hsort

end Stepwise.Compute
