import Stepwise.Proofs.Predicate.Integer
import Stepwise.Proofs.Tool.Sort

namespace Stepwise

open Binary64 (roundedInt)

variable {a b : Int} {field : String} {items sorted : List Json} {item : Json} {op : Comparison}

namespace Compute

-- Two items whose keys are integers in a relation.
def KeysRelate (field : String) (r : Int → Int → Prop) (first second : Json) : Prop :=
  ∃ a b, (FieldPath.ofString field).walk first = .ok (.ofInt a) ∧
    (FieldPath.ofString field).walk second = .ok (.ofInt b) ∧ r a b

def IntegerKeys (field : String) (items : List Json) : Prop :=
  ∀ item ∈ items, ∃ a, Number.Storable a ∧ (FieldPath.ofString field).walk item = .ok (.ofInt a)

theorem exists_keys (h : IntegerKeys field items) {first second : Json}
    (hmem : [first, second].Sublist items) : ∃ a b, Number.Storable a ∧ Number.Storable b ∧
      (FieldPath.ofString field).walk first = .ok (.ofInt a) ∧
      (FieldPath.ofString field).walk second = .ok (.ofInt b) := by
  obtain ⟨a, ha, hfirst⟩ := h first (hmem.subset (by simp))
  obtain ⟨b, hb, hsecond⟩ := h second (hmem.subset (by simp))
  exact ⟨a, b, ha, hb, hfirst, hsecond⟩

theorem keysRelate_iff {first second : Json} {r : Int → Int → Prop}
    (hfirst : (FieldPath.ofString field).walk first = .ok (.ofInt a))
    (hsecond : (FieldPath.ofString field).walk second = .ok (.ofInt b)) :
    KeysRelate field r first second ↔ r a b := by
  constructor
  · rintro ⟨a', b', hfirst', hsecond', hr⟩
    cases hfirst.symm.trans hfirst'
    cases hsecond.symm.trans hsecond'
    exact hr
  · intro hr
    exact ⟨a, b, hfirst, hsecond, hr⟩

-- Two items that pass a test stand as they did among those that pass it.
theorem sublist_of_filter_eq {α : Type} {p : α → Bool} {l l' : List α} {x y : α}
    (h : l.filter p = l'.filter p) (hx : p x = true) (hy : p y = true)
    (hsub : [x, y].Sublist l) : [x, y].Sublist l' := by
  have hfilter := hsub.filter p
  rw [List.filter_eq_self.mpr (by simp [hx, hy]), h] at hfilter
  exact hfilter.trans List.filter_sublist

theorem evaluate_eq_of_rounded {key : Int} (ha : Number.Storable a) (hkey : Number.Storable key)
    (hwalk : (FieldPath.ofString field).walk item = .ok (.ofInt a))
    (hround : roundedInt a = roundedInt key) :
    (Predicate.compare field .eq (.ofInt key)).evaluate item = true := by
  rw [evaluate_of_walk hwalk, Comparison.test_ofInt_iff ha hkey]
  exact hround

-- Sorting is stable, so items whose keys round to one integer stand as they did.
theorem StablySorted.sublist_iff (h : StablySorted field op items sorted) {first second : Json}
    (ha : Number.Storable a) (hb : Number.Storable b)
    (hfirst : (FieldPath.ofString field).walk first = .ok (.ofInt a))
    (hsecond : (FieldPath.ofString field).walk second = .ok (.ofInt b))
    (hround : roundedInt a = roundedInt b) :
    [first, second].Sublist sorted ↔ [first, second].Sublist items := by
  have hkept := h.stable (.ofInt a)
  have hpassFirst := evaluate_eq_of_rounded ha ha hfirst rfl
  have hpassSecond := evaluate_eq_of_rounded hb ha hsecond hround.symm
  constructor
  · exact sublist_of_filter_eq hkept hpassFirst hpassSecond
  · exact sublist_of_filter_eq hkept.symm hpassFirst hpassSecond

theorem StablySorted.relates_rounded (h : StablySorted field op items sorted) {first second : Json}
    (ha : Number.Storable a) (hb : Number.Storable b)
    (hfirst : (FieldPath.ofString field).walk first = .ok (.ofInt a))
    (hsecond : (FieldPath.ofString field).walk second = .ok (.ofInt b))
    (hsub : [first, second].Sublist sorted) : op.Relates (roundedInt a) (roundedInt b) := by
  obtain ⟨x, y, hx, hy, htest⟩ := h.ordered.forall_sublist hsub
  cases hfirst.symm.trans hx
  cases hsecond.symm.trans hy
  exact (Comparison.test_ofInt_iff ha hb).mp htest

theorem StablySorted.integerKeys (h : StablySorted field op items sorted)
    (hkeys : IntegerKeys field items) : IntegerKeys field sorted :=
  fun item hitem => hkeys item (h.perm.mem_iff.mp hitem)

-- Keys of different doubles are put in order. Those of one double have to be in order already.
theorem StablySorted.pairwise_iff (h : StablySorted field op items sorted)
    (hkeys : IntegerKeys field items) :
    sorted.Pairwise (KeysRelate field op.Relates) ↔ items.Pairwise fun x y =>
      KeysRelate field (fun a b => roundedInt a = roundedInt b) x y →
        KeysRelate field op.Relates x y := by
  simp only [List.pairwise_iff_forall_sublist]
  constructor
  · intro hsorted first second hsub hround
    obtain ⟨a, b, ha, hb, hfirst, hsecond⟩ := exists_keys hkeys hsub
    rw [keysRelate_iff hfirst hsecond] at hround
    apply hsorted
    exact (h.sublist_iff ha hb hfirst hsecond hround).mpr hsub
  · intro hitems first second hsub
    obtain ⟨a, b, ha, hb, hfirst, hsecond⟩ := exists_keys (h.integerKeys hkeys) hsub
    by_cases hround : roundedInt a = roundedInt b
    · apply hitems
      · exact (h.sublist_iff ha hb hfirst hsecond hround).mp hsub
      · exact (keysRelate_iff hfirst hsecond).mpr hround
    · rw [keysRelate_iff hfirst hsecond]
      have hrelates := h.relates_rounded ha hb hfirst hsecond hsub
      exact (Comparison.relates_roundedInt_iff.mpr (.inr hround) op).mp hrelates

theorem sortable_of_integerKeys (h : IntegerKeys field items) : Sortable field items := by
  refine .inl fun item hitem => ?_
  obtain ⟨a, -, ha⟩ := h item hitem
  exact ⟨.ofInt a, ha, .int a, rfl⟩

end Compute

-- Integers are compared by predicates, and sorted, by their values exactly where no two of
-- different values round to one.
theorem integers_ordered_iff (field : String) :
    (∀ (a b : Int) (item : Json), Number.Storable a → Number.Storable b →
      (FieldPath.ofString field).walk item = .ok (.ofInt a) →
      ((∀ op : Comparison, (Predicate.compare field op (.ofInt b)).evaluate item = true ↔
          op.Relates a b) ↔
        (a = b ∨ roundedInt a ≠ roundedInt b))) ∧
    ∀ (inputs : List Json) (params : List (String × Json)),
      (Json.field? params "key").bind Json.toStr? = some field →
      Compute.IntegerKeys field (Compute.flatten inputs) →
      ∃ sorted, Compute.sort inputs params = .ok (.arr sorted) ∧
        sorted.Perm (Compute.flatten inputs) ∧
        (sorted.Pairwise (Compute.KeysRelate field (Compute.direction params).Relates) ↔
          (Compute.flatten inputs).Pairwise fun x y =>
            Compute.KeysRelate field (fun a b => roundedInt a = roundedInt b) x y →
              Compute.KeysRelate field (Compute.direction params).Relates x y) := by
  constructor
  · intro a b item ha hb hwalk
    simp only [Compute.evaluate_of_walk hwalk, Comparison.test_ofInt_iff ha hb]
    exact Comparison.relates_roundedInt_iff
  · intro inputs params hfield hkeys
    have hsortable := Compute.sortable_of_integerKeys hkeys
    obtain ⟨sorted, hsort, hstable⟩ := Compute.exists_stablySorted hfield hsortable
    exact ⟨sorted, hsort, hstable.perm, hstable.pairwise_iff hkeys⟩

def counted (n : Int) : Json := .obj [("n", .ofInt n)]

theorem walk_counted (n : Int) : (FieldPath.ofString "n").walk (counted n) = .ok (.ofInt n) := rfl

-- Integers above `2 ^ 53` that do not round to one.
theorem integers_ordered_counted :
    Number.Storable 9007199254740993 ∧ Number.Storable 9007199254740995 ∧
      (∀ op : Comparison, (Predicate.compare "n" op (.ofInt 9007199254740995)).evaluate
        (counted 9007199254740993) = true ↔ op.Relates 9007199254740993 9007199254740995) ∧
      ∃ sorted, Compute.sort [counted 9007199254740995, counted 9007199254740993]
          [("key", .str "n")] = .ok (.arr sorted) ∧
        sorted.Pairwise (Compute.KeysRelate "n" (· ≤ ·)) := by
  have hdiffer : roundedInt 9007199254740993 ≠ roundedInt 9007199254740995 := by decide
  have hlow : Number.Storable 9007199254740993 := ⟨by decide, by decide⟩
  have hhigh : Number.Storable 9007199254740995 := ⟨by decide, by decide⟩
  have hcompared := (integers_ordered_iff "n").1 _ _ _ hlow hhigh (walk_counted 9007199254740993)
  refine ⟨hlow, hhigh, hcompared.mpr (.inr hdiffer), ?_⟩
  have hflatten : Compute.flatten [counted 9007199254740995, counted 9007199254740993] =
      [counted 9007199254740995, counted 9007199254740993] := rfl
  have hkeys : Compute.IntegerKeys "n"
      (Compute.flatten [counted 9007199254740995, counted 9007199254740993]) := by
    rw [hflatten]
    unfold Compute.IntegerKeys
    rw [List.forall_mem_cons, List.forall_mem_singleton]
    exact ⟨⟨_, hhigh, walk_counted _⟩, ⟨_, hlow, walk_counted _⟩⟩
  obtain ⟨sorted, hsort, -, hordered⟩ :=
    (integers_ordered_iff "n").2 _ [("key", .str "n")] rfl hkeys
  refine ⟨sorted, hsort, hordered.mpr ?_⟩
  rw [hflatten, List.pairwise_pair]
  intro hround
  exact absurd ((Compute.keysRelate_iff (walk_counted _) (walk_counted _)).mp hround) hdiffer.symm

-- Two integers that round to one are equal for a predicate.
theorem evaluate_eq_neighbours :
    (Predicate.compare "n" .eq (.ofInt 9007199254740992)).evaluate (counted 9007199254740993) = true ∧
      ¬ Comparison.eq.Relates 9007199254740993 9007199254740992 := by
  have hlow : Number.Storable 9007199254740992 := ⟨by decide, by decide⟩
  have hhigh : Number.Storable 9007199254740993 := ⟨by decide, by decide⟩
  have hround : roundedInt 9007199254740993 = roundedInt 9007199254740992 := by decide
  refine ⟨Compute.evaluate_eq_of_rounded hhigh hlow (walk_counted _) hround, ?_⟩
  unfold Comparison.Relates
  omega

end Stepwise
