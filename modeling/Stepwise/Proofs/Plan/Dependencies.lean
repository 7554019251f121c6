import Stepwise.Plan.Dependencies

namespace Stepwise

namespace Dependencies

theorem mem_earlier {a place : Nat} {targets : List Nat} :
    a ∈ earlier place targets ↔ a < place ∧ a ∈ targets := by
  simp [earlier]

end Dependencies

theorem Plan.dependencies_of_getElem? {plan : Plan} {place : Nat} {s : Step}
    (h : plan.steps[place]? = some s) :
    plan.dependencies.dependencies place = Dependencies.earlier place s.targets := by
  simp [dependencies, Dependencies.ofSteps, Dependencies.dependencies, List.getElem?_zipIdx, h]

-- The dangling pointers are those to the step itself or a later one.
theorem Plan.mem_dangling {plan : Plan} {place target : Nat} :
    (place, target) ∈ plan.dependencies.dangling ↔
      ∃ s, plan.steps[place]? = some s ∧ target ∈ s.targets ∧ place ≤ target := by
  simp only [dependencies, Dependencies.ofSteps, List.mem_flatMap, Prod.exists, List.mem_map,
    List.mem_filter, List.mem_zipIdx_iff_getElem?, decide_eq_true_eq, Prod.mk.injEq]
  constructor
  · rintro ⟨s, i, hs, t, ⟨ht, hle⟩, rfl, rfl⟩
    exact ⟨s, hs, ht, hle⟩
  · rintro ⟨s, hs, ht, hle⟩
    exact ⟨s, place, hs, target, ⟨ht, hle⟩, rfl, rfl⟩

variable {s : Step} {v : Json} {p : Pointer}

theorem Pointer.wellFormed?_eq_some_iff : wellFormed? v = some p ↔ detect? v = some (.ok p) := by
  unfold wellFormed?
  split
  · next q hq => simp [hq]
  · next hnone => exact ⟨nofun, fun h => absurd h (hnone p)⟩

namespace Step

-- A pointer that stands where a run resolves it: as an argument, or among the inputs of a
-- computation.
inductive Uses (s : Step) (p : Pointer) : Prop
  | arg {name : String} {v : Json} (hget : s.args.get? name = some v)
    (hp : Pointer.detect? v = some (.ok p))
  | input {items : List Json} {v : Json} (hkind : s.kind? = some .compute)
    (hinputs : s.args.get? "inputs" = some (.arr items)) (hv : v ∈ items)
    (hp : Pointer.detect? v = some (.ok p))

theorem mem_argPointers_iff {name : String} :
    (name, p) ∈ s.argPointers ↔
      ∃ v, (name, v) ∈ s.args.entries ∧ Pointer.detect? v = some (.ok p) := by
  simp only [argPointers, List.mem_filterMap, Prod.exists, Option.map_eq_some_iff, Prod.mk.injEq,
    Pointer.wellFormed?_eq_some_iff]
  constructor
  · rintro ⟨_, v, hmem, _, hp, rfl, rfl⟩
    exact ⟨v, hmem, hp⟩
  · rintro ⟨v, hmem, hp⟩
    exact ⟨name, v, hmem, p, hp, rfl, rfl⟩

theorem mem_inputPointers_iff :
    p ∈ s.inputPointers ↔
      ∃ items v, s.args.get? "inputs" = some (.arr items) ∧ v ∈ items ∧
        Pointer.detect? v = some (.ok p) := by
  have harr (w : Json) (items : List Json) : w.toArr? = some items ↔ w = .arr items := by
    cases w <;> simp [Json.toArr?]
  unfold inputPointers
  constructor
  · intro h
    split at h
    · next items hitems =>
      obtain ⟨w, hw, hlist⟩ := Option.bind_eq_some_iff.1 hitems
      obtain ⟨v, hv, hp⟩ := List.mem_filterMap.1 h
      exact ⟨items, v, (harr w items).1 hlist ▸ hw, hv, Pointer.wellFormed?_eq_some_iff.1 hp⟩
    · cases h
  · rintro ⟨items, v, hinputs, hv, hp⟩
    have hitems : (s.args.get? "inputs").bind Json.toArr? = some items := by
      rw [hinputs]
      rfl
    rw [hitems]
    exact List.mem_filterMap.2 ⟨v, hv, Pointer.wellFormed?_eq_some_iff.2 hp⟩

-- Each pointer among the arguments has its step among the targets.
theorem mem_targets_of_arg {arg : String} (harg : (arg, v) ∈ s.args.entries)
    (hp : Pointer.detect? v = some (.ok p)) : p.step ∈ s.targets := by
  have hmem : (arg, p) ∈ s.argPointers := mem_argPointers_iff.2 ⟨v, harg, hp⟩
  exact List.mem_append_left _ (List.mem_map.2 ⟨(arg, p), hmem, rfl⟩)

theorem mem_targets_of_input {items : List Json} (hinputs : s.args.get? "inputs" = some (.arr items))
    (hv : v ∈ items) (hp : Pointer.detect? v = some (.ok p)) : p.step ∈ s.targets := by
  have hmem : p ∈ s.inputPointers := mem_inputPointers_iff.2 ⟨items, v, hinputs, hv, hp⟩
  exact List.mem_append_right _ (List.mem_map.2 ⟨p, hmem, rfl⟩)

end Step

end Stepwise
