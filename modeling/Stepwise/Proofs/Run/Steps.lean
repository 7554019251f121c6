import Stepwise.Proofs.Run.Transition

namespace Stepwise.Run

variable {σ : Type} {registry : Registry (Tool σ)} {token : Token σ} {place : Nat}
  {context after : Context} {world left : σ}

theorem steps_append (done rest : List Step) :
    steps registry token place (done ++ rest) context world =
      match steps registry token place done context world with
      | (.ok (), context, world) =>
        steps registry token (place + done.length) rest context world
      | (.error e, context, world) => (.error e, context, world) := by
  induction done generalizing place context world with
  | nil => rfl
  | cons s done ih =>
    simp only [List.cons_append, steps]
    split
    · rfl
    · rw [ih, List.length_cons, Nat.add_right_comm, Nat.add_assoc]

theorem steps_cons_of_ok {s : Step} {rest : List Step}
    (h : step registry token place s context world = (.ok (), after, left)) :
    steps registry token place (s :: rest) context world =
      steps registry token (place + 1) rest after left := by
  simp only [steps, h]

theorem steps_cons_of_error {s : Step} {rest : List Step} {e : RunError}
    (h : step registry token place s context world = (.error e, after, left)) :
    steps registry token place (s :: rest) context world =
      (.error (e, .failed place), after, left) := by
  simp only [steps, h]

-- A run stops at its first step, or completes it and goes on with the rest.
theorem transition_of_steps_cons {s : Step} {rest : List Step}
    {result : Except (RunError × RunState) Unit}
    (h : steps registry token place (s :: rest) context world = (result, after, left)) :
    (∃ e calls, result = .error (e, .failed place) ∧
      Transition registry token place s context world (.error e) after left calls) ∨
    ∃ next reached calls,
      Transition registry token place s context world (.ok ()) next reached calls ∧
        steps registry token (place + 1) rest next reached = (result, after, left) := by
  simp only [steps] at h
  split at h
  · next e _ _ hstep =>
    cases h
    obtain ⟨calls, htransition⟩ := transition_of_step hstep
    exact .inl ⟨e, calls, rfl, htransition⟩
  · next next reached hstep =>
    obtain ⟨calls, htransition⟩ := transition_of_step hstep
    exact .inr ⟨next, reached, calls, htransition, h⟩

theorem steps_append_of_ok {done rest : List Step}
    (h : steps registry token place done context world = (.ok (), after, left)) :
    steps registry token place (done ++ rest) context world =
      steps registry token (place + done.length) rest after left := by
  rw [steps_append, h]

-- A run that completes all its steps completes all but the last, and then the last.
theorem exists_of_steps_concat_ok {done : List Step} {s : Step}
    (h : steps registry token place (done ++ [s]) context world = (.ok (), after, left)) :
    ∃ context' world', steps registry token place done context world = (.ok (), context', world') ∧
      step registry token (place + done.length) s context' world' = (.ok (), after, left) := by
  rw [steps_append] at h
  split at h
  · next context' world' hdone =>
    refine ⟨context', world', hdone, ?_⟩
    simp only [steps] at h
    split at h
    · cases h
    · next hstep =>
      cases h
      exact hstep
  · cases h

-- A run that stops completes the steps before the one that it stops at.
theorem exists_of_steps_error {ss : List Step} {e : RunError} {state : RunState}
    (h : steps registry token place ss context world = (.error (e, state), after, left)) :
    ∃ done s rest context' world', ss = done ++ s :: rest ∧ state = .failed (place + done.length) ∧
      steps registry token place done context world = (.ok (), context', world') ∧
      step registry token (place + done.length) s context' world' = (.error e, after, left) := by
  induction ss generalizing place context world with
  | nil => cases h
  | cons s rest ih =>
    simp only [steps] at h
    split at h
    · next hstep =>
      cases h
      exact ⟨[], s, rest, context, world, rfl, rfl, rfl, hstep⟩
    · next context₁ world₁ hstep =>
      obtain ⟨done, s', rest', context', world', rfl, hstate, hdone, hstop⟩ := ih h
      have hplace : place + 1 + done.length = place + (s :: done).length := by
        rw [List.length_cons, Nat.add_right_comm, Nat.add_assoc]
      refine ⟨s :: done, s', rest', context', world', rfl, hplace ▸ hstate, ?_, hplace ▸ hstop⟩
      rw [steps_cons_of_ok hstep, hdone]

theorem earlier_of_steps {ss : List Step} {result : Except (RunError × RunState) Unit}
    (h : steps registry token place ss context world = (result, after, left)) :
    after.earlier = context.earlier := by
  induction ss generalizing place context world with
  | nil => cases h; rfl
  | cons s rest ih =>
    simp only [steps] at h
    split at h
    · next hstep =>
      cases h
      obtain ⟨calls, htransition⟩ := transition_of_step hstep
      exact htransition.earlier_eq
    · next hstep =>
      obtain ⟨calls, htransition⟩ := transition_of_step hstep
      rw [ih h, htransition.earlier_eq]

end Stepwise.Run

namespace Stepwise.Executor

variable {σ : Type} {executor : Executor σ} {token : Token σ} {plan : Plan}
  {context after : Context} {world left : σ}

theorem context_execute :
    (executor.execute token plan context world).context =
      (Run.steps executor.registry token 0 plan.steps context.beginRun world).2.1 := by
  unfold execute
  split <;> next h => rw [h]

theorem execute_of_steps_ok
    (h : Run.steps executor.registry token 0 plan.steps context.beginRun world =
      (.ok (), after, left)) :
    executor.execute token plan context world = ⟨.ok after.runTrace, after, left⟩ := by
  simp only [execute, h]

theorem execute_of_steps_error {e : RunError} {state : RunState}
    (h : Run.steps executor.registry token 0 plan.steps context.beginRun world =
      (.error (e, state), after, left)) :
    executor.execute token plan context world =
      ⟨.error ⟨e, state, after.runTrace⟩, after, left⟩ := by
  simp only [execute, h]

end Stepwise.Executor
