import Stepwise.Proofs.Run.Calls

namespace Stepwise

variable {σ : Type}

namespace Run

variable {registry : Registry (Tool σ)} {token : Token σ} {place : Nat} {s : Step}
  {ss : List Step} {context after : Context} {world left : σ} {calls : List Call}

theorem Transition.length_runTrace_of_ok
    (h : Transition registry token place s context world (.ok ()) after left calls) :
    after.runTrace.length = context.runTrace.length + 1 := by
  cases h with
  | completed _ _ _ _ => simp [Context.runTrace, Context.record]

theorem length_runTrace_of_steps_ok
    (h : steps registry token place ss context world = (.ok (), after, left)) :
    after.runTrace.length = context.runTrace.length + ss.length := by
  induction ss generalizing place context world with
  | nil =>
    cases h
    rfl
  | cons s rest ih =>
    simp only [steps] at h
    split at h
    · cases h
    · next hstep =>
      obtain ⟨calls, htransition⟩ := transition_of_step hstep
      have hfirst := htransition.length_runTrace_of_ok
      have hrest := ih h
      rw [List.length_cons]
      omega

-- Where all steps complete, each of them is carried out with the results of those before it.
theorem exists_transition_of_steps_ok (hstart : context.runTrace = [])
    (h : steps registry token 0 ss context world = (.ok (), after, left)) {i : Nat}
    (hs : ss[i]? = some s) :
    ∃ before reached next left' calls, before.runTrace.length = i ∧
      Transition registry token i s before reached (.ok ()) next left' calls := by
  obtain ⟨hi, rfl⟩ := List.getElem?_eq_some_iff.1 hs
  have hlength : (ss.take i).length = i := by
    rw [List.length_take]
    omega
  rw [← List.take_append_drop i ss, List.drop_eq_getElem_cons hi, steps_append, hlength,
    Nat.zero_add] at h
  split at h
  · next before reached hdone =>
    have hbefore : before.runTrace.length = i := by
      rw [length_runTrace_of_steps_ok hdone, hstart, List.length_nil, Nat.zero_add, hlength]
    simp only [steps] at h
    split at h
    · cases h
    · next next left' hstep =>
      obtain ⟨calls, htransition⟩ := transition_of_step hstep
      exact ⟨before, reached, next, left', calls, hbefore, htransition⟩
  · cases h

end Run

namespace Executor

open Run (Call Transition)

variable {executor : Executor σ} {token : Token σ} {plan : Plan} {context : Context} {world : σ}
  {failure : Failure}

-- A failed run is a completed run of the steps before the one that fails, and the failing
-- transition of that one.
structure FailsAt (executor : Executor σ) (token : Token σ) (plan : Plan) (context : Context)
    (world : σ) (failure : Failure) (s : Step) (before : Context) (reached : σ)
    (calls : List Call) : Prop where
  getElem? : plan.steps[failure.error.step]? = some s
  state : failure.state = .failed failure.error.step
  done : Run.steps executor.registry token 0 (plan.steps.take failure.error.step) context.beginRun
    world = (.ok (), before, reached)
  trace : failure.trace = before.runTrace
  length : failure.trace.length = failure.error.step
  runTrace : (executor.execute token plan context world).context.runTrace = failure.trace
  transition : Transition executor.registry token failure.error.step s before reached
    (.error failure.error) (executor.execute token plan context world).context
    (executor.execute token plan context world).world calls

theorem exists_failsAt (h : (executor.execute token plan context world).result = .error failure) :
    ∃ s before reached calls, FailsAt executor token plan context world failure s before reached
      calls := by
  cases hrun : Run.steps executor.registry token 0 plan.steps context.beginRun world with
  | mk result rest =>
  obtain ⟨after, left⟩ := rest
  cases result with
  | ok =>
    rw [execute_of_steps_ok hrun] at h
    cases h
  | error stop =>
    obtain ⟨e, state⟩ := stop
    have houtcome := execute_of_steps_error hrun
    rw [houtcome] at h
    cases h
    obtain ⟨done, s, rest, before, reached, hplan, hstate, hdone, hstop⟩ :=
      Run.exists_of_steps_error hrun
    rw [Nat.zero_add] at hstate hstop
    obtain ⟨calls, htransition⟩ := Run.transition_of_step hstop
    have hstep : e.step = done.length := htransition.step_of_error
    have htrace : after.runTrace = before.runTrace := htransition.runTrace_of_error
    have hlength : before.runTrace.length = done.length := by
      rw [Run.length_runTrace_of_steps_ok hdone]
      exact Nat.zero_add _
    refine ⟨s, before, reached, calls, ?_⟩
    rw [← hstep] at htransition
    constructor
    · simp [hplan, hstep]
    · rw [hstate, hstep]
    · dsimp only
      rw [hstep, hplan, List.take_left' rfl]
      exact hdone
    · exact htrace
    · dsimp only
      rw [htrace, hlength, hstep]
    · rw [houtcome]
    · rw [houtcome]
      exact htransition

end Executor

end Stepwise
