import Stepwise.Proofs.Plan.Demands
import Stepwise.Proofs.Plan.Validation

namespace Stepwise

-- What is reported on demands, each with the number of its step: for every one that is not met one
-- violation, of that step and about the same subject, and nothing else; all in order.
inductive Reported : List (Nat × Demand) → List Violation → Prop
  | nil : Reported [] []
  | met {place : Nat} {d : Demand} {ds : List (Nat × Demand)} {vs : List Violation} (h : d.Met)
    (rest : Reported ds vs) : Reported ((place, d) :: ds) vs
  | broken {place : Nat} {d : Demand} {ds : List (Nat × Demand)} {vs : List Violation}
    {f : Constraint.Fault} (h : ¬ d.Met) (hsubject : f.subject = d.subject) (rest : Reported ds vs) :
    Reported ((place, d) :: ds) (⟨some place, .constraint f⟩ :: vs)

theorem Reported.append {ds ds' : List (Nat × Demand)} {vs vs' : List Violation}
    (h : Reported ds vs) (h' : Reported ds' vs') : Reported (ds ++ ds') (vs ++ vs') := by
  induction h with
  | nil => exact h'
  | met hmet _ ih => exact .met hmet ih
  | broken hmet hsubject _ ih => exact .broken hmet hsubject ih

theorem Reported.eq_nil_iff {ds : List (Nat × Demand)} {vs : List Violation} (h : Reported ds vs) :
    vs = [] ↔ ∀ d ∈ ds, d.2.Met := by
  induction h with
  | nil => simp
  | met hmet _ ih => simp [hmet, ih]
  | broken hmet _ _ _ => simp [hmet]

theorem Reported.of_enforces {args : Dict Json} {cs : List Constraint} {ds : List Demand}
    (place : Nat) (h : List.Forall₂ (Constraint.Enforces args) cs ds) :
    Reported (ds.map (place, ·))
      ((cs.filterMap (Constraint.fault? args)).map fun f => ⟨some place, .constraint f⟩) := by
  induction h with
  | nil => exact .nil
  | @cons c d cs ds henforces _ ih =>
    cases hfault : c.fault? args with
    | none =>
      rw [List.filterMap_cons_none hfault]
      exact .met (henforces.met_iff.1 hfault) ih
    | some f =>
      rw [List.filterMap_cons_some hfault]
      refine .broken (fun hmet => ?_) (henforces.subject f hfault) ih
      rw [henforces.met_iff.2 hmet] at hfault
      cases hfault

theorem reported_violationsFrom (place : Nat) (steps : List Step) :
    Reported ((steps.zipIdx place).flatMap fun (s, i) => s.demands.map (i, ·))
      (violationsFrom place steps) := by
  induction steps generalizing place with
  | nil => exact .nil
  | cons s rest ih => exact (Reported.of_enforces place s.enforces_demands).append (ih (place + 1))

theorem filter_violationsFrom_of_lt {first place : Nat} (steps : List Step) (h : place < first) :
    (violationsFrom first steps).filter (·.step == some place) = [] := by
  induction steps generalizing first with
  | nil => rfl
  | cons s rest ih =>
    rw [violationsFrom, List.filter_append, ih (by omega), List.append_nil, List.filter_eq_nil_iff]
    intro v hv
    obtain ⟨f, -, rfl⟩ := List.mem_map.1 hv
    simp only [beq_iff_eq, Option.some.injEq]
    omega

-- What is reported on a step is what would be reported on it if it were the only one.
theorem filter_violationsFrom (first place : Nat) (steps : List Step) :
    (violationsFrom first steps).filter (·.step == some (first + place)) =
      (violations (steps[place]?).toList).map ({ · with step := some (first + place) }) := by
  induction steps generalizing first place with
  | nil => rfl
  | cons s rest ih =>
    rw [violationsFrom, List.filter_append]
    cases place with
    | zero =>
      have hrest := filter_violationsFrom_of_lt rest (Nat.lt_succ_self first)
      rw [Nat.add_zero, hrest, List.filter_eq_self.2]
      · simp [violations, violationsFrom]
      · simp
    | succ place =>
      have hplace : first + (place + 1) = first + 1 + place := by omega
      rw [hplace, ih (first + 1) place, List.filter_eq_nil_iff.2]
      · rfl
      · simp
        omega

theorem reported_violations (steps : List Step) :
    Reported (steps.zipIdx.flatMap fun (s, place) => s.demands.map (place, ·)) (violations steps) :=
  reported_violationsFrom 0 steps

theorem violations_eq_nil_iff {steps : List Step} :
    violations steps = [] ↔ ∀ s ∈ steps, ∀ d ∈ s.demands, d.Met := by
  rw [(reported_violations steps).eq_nil_iff]
  constructor
  · intro h s hs d hd
    obtain ⟨place, hplace⟩ := List.mem_iff_getElem?.1 hs
    have hmem : (s, place) ∈ steps.zipIdx := List.mk_mem_zipIdx_iff_getElem?.2 hplace
    exact h (place, d) (List.mem_flatMap.2 ⟨_, hmem, List.mem_map.2 ⟨d, hd, rfl⟩⟩)
  · intro h x hx
    obtain ⟨⟨s, place⟩, hs, hx⟩ := List.mem_flatMap.1 hx
    obtain ⟨d, hd, rfl⟩ := List.mem_map.1 hx
    exact h s (List.fst_mem_of_mem_zipIdx hs) d hd

-- Validation reports exactly the demands that are not met: one violation for each of them, in order,
-- with the number of its step. What it reports on a step does not depend on the others, and there is
-- a plan, of these very steps, exactly when every demand on every step is met.
theorem Plan.validation_exact (steps : List Step) :
    Reported (steps.zipIdx.flatMap fun (s, place) => s.demands.map (place, ·)) (violations steps) ∧
    (∀ place : Nat, (violations steps).filter (·.step == some place) =
      (violations (steps[place]?).toList).map ({ · with step := some place })) ∧
    ((∀ s ∈ steps, ∀ d ∈ s.demands, d.Met) ∧ (∃ plan, ofSteps steps = .ok plan ∧ plan.steps = steps) ∨
      (∃ s ∈ steps, ∃ d ∈ s.demands, ¬ d.Met) ∧
        ofSteps steps = .error (.invalid (violations steps))) := by
  refine ⟨reported_violations steps, fun place => ?_, ?_⟩
  · have hplace := filter_violationsFrom 0 place steps
    rw [Nat.zero_add] at hplace
    exact hplace
  · by_cases h : violations steps = []
    · exact .inl ⟨violations_eq_nil_iff.1 h, ⟨steps, h⟩, ofSteps_of_valid h, rfl⟩
    · refine .inr ⟨?_, ofSteps_of_invalid h⟩
      rw [violations_eq_nil_iff] at h
      push Not at h
      exact h

example :
    violations [⟨"", "Fetcher", .empty⟩, ⟨"", "Store", .ofList [("action", .str "drop")]⟩] =
      [⟨some 0, .constraint (.missing "url")⟩, ⟨some 1, .constraint (.unknownAction "drop")⟩,
        ⟨some 1, .constraint (.missing "key")⟩] := by
  decide

end Stepwise
