import Stepwise.Plan.Basic

namespace Stepwise

theorem violationsFrom_append (place : Nat) (before after : List Step) :
    violationsFrom place (before ++ after) =
      violationsFrom place before ++ violationsFrom (place + before.length) after := by
  induction before generalizing place with
  | nil => rfl
  | cons s rest ih =>
    have hplace : place + 1 + rest.length = place + (s :: rest).length := by
      rw [List.length_cons, Nat.add_right_comm, Nat.add_assoc]
    rw [List.cons_append, violationsFrom, ih, hplace, violationsFrom, List.append_assoc]

theorem violations_take_eq_nil {steps : List Step} (h : violations steps = []) (k : Nat) :
    violations (steps.take k) = [] := by
  rw [← List.take_append_drop k steps, violations, violationsFrom_append,
    List.append_eq_nil_iff] at h
  exact h.1

namespace Plan

theorem ofSteps_of_valid {steps : List Step} (h : violations steps = []) :
    ofSteps steps = .ok ⟨steps, h⟩ := by
  unfold ofSteps
  split
  · rfl
  · next hviolations =>
    rw [h] at hviolations
    cases hviolations

theorem ofSteps_of_invalid {steps : List Step} (h : violations steps ≠ []) :
    ofSteps steps = .error (.invalid (violations steps)) := by
  unfold ofSteps
  split
  · next hnone => exact absurd hnone h
  · next hviolations => rw [hviolations]

theorem ofSteps_steps (plan : Plan) : ofSteps plan.steps = .ok plan :=
  ofSteps_of_valid plan.valid

theorem steps_of_ofSteps {steps : List Step} {plan : Plan} (h : ofSteps steps = .ok plan) :
    plan.steps = steps := by
  by_cases hvalid : violations steps = []
  · rw [ofSteps_of_valid hvalid] at h
    cases h
    rfl
  · rw [ofSteps_of_invalid hvalid] at h
    cases h

-- The first steps of a plan, which are a plan of their own.
def take (plan : Plan) (k : Nat) : Plan where
  steps := plan.steps.take k
  valid := violations_take_eq_nil plan.valid k

end Plan

end Stepwise
