import Mathlib.Data.List.Induction
import Stepwise.Proofs.Run.Arguments
import Stepwise.Proofs.Run.Steps

namespace Stepwise

open Run (Call)

variable {σ : Type}

-- A tool that also notes each of its calls, under the name it is registered under.
def Tool.logged (tool : Tool σ) (name : String) : Tool (σ × List Call) where
  name := tool.name
  description := tool.description
  call args context world :=
    match tool.call args context world.1 with
    | (result, frame, after) => (result, frame, after, world.2 ++ [⟨name, args, result⟩])

def Registry.logged (registry : Registry (Tool σ)) : Registry (Tool (σ × List Call)) where
  tools := registry.tools.map fun name tool => tool.logged name
  isSealed := registry.isSealed

def Token.logged (token : Token σ) : Token (σ × List Call) := fun place world => token place world.1

def Executor.logged (executor : Executor σ) : Executor (σ × List Call) :=
  ⟨executor.registry.logged, executor.isSealed⟩

namespace Run

variable {registry : Registry (Tool σ)} {token : Token σ} {place : Nat} {s : Step}
  {context after : Context} {world left : σ} {result : Except RunError Unit}
  {calls log : List Call} {ss : List Step} {results : List Json}

theorem resolve_logged_of_ok {name : String} {tool : Tool σ} (h : registry.resolve name = .ok tool) :
    registry.logged.resolve name = .ok (tool.logged name) := by
  unfold Registry.resolve at h ⊢
  rw [Registry.logged, Dict.get?_map]
  split at h
  · next hget =>
    cases h
    rw [hget]
    rfl
  · cases h

theorem resolve_logged_of_error {name : String} {e : RegistryError}
    (h : registry.resolve name = .error e) : registry.logged.resolve name = .error e := by
  unfold Registry.resolve at h ⊢
  rw [Registry.logged, Dict.get?_map]
  split at h
  · cases h
  · next hget =>
    cases h
    rw [hget]
    rfl

theorem call_logged {tool : Tool σ} {name : String} {args : Args} {r : Except ToolError Json}
    {frame : Frame} (h : tool.call args context world = (r, frame, left)) :
    (tool.logged name).call args context (world, log) =
      (r, frame, left, log ++ [⟨name, args, r⟩]) := by
  simp only [Tool.logged, h]

-- Noting the calls changes nothing else, and what is noted are the calls of the transition.
theorem Transition.logged
    (h : Transition registry token place s context world result after left calls)
    (log : List Call) :
    Transition registry.logged token.logged place s context (world, log) result after
      (left, log ++ calls) calls := by
  cases h with
  | cancelled htoken =>
    rw [List.append_nil]
    exact .cancelled htoken
  | unknown htoken hresolve =>
    rw [List.append_nil]
    exact .unknown htoken (resolve_logged_of_error hresolve)
  | unresolved htoken hresolve hargs =>
    rw [List.append_nil]
    exact .unresolved htoken (resolve_logged_of_ok hresolve) hargs
  | failed htoken hresolve hargs hcall =>
    exact .failed htoken (resolve_logged_of_ok hresolve) hargs (call_logged hcall)
  | completed htoken hresolve hargs hcall =>
    exact .completed htoken (resolve_logged_of_ok hresolve) hargs (call_logged hcall)

-- The calls that carry out steps: one for each step and in their order, to the tool registered
-- under the step's name, with the arguments that the results before it give.
structure Carried (registry : Registry (Tool σ)) (ss : List Step) (results : List Json)
    (calls : List Call) : Prop where
  length_results : results.length = ss.length
  length_calls : calls.length = ss.length
  call : ∀ (i : Nat) (s : Step) (v : Json), ss[i]? = some s → results[i]? = some v →
    ∃ tool args, registry.resolve s.tool = .ok tool ∧
      resolveArgs i s (results.take i) = .ok args ∧ calls[i]? = some ⟨s.tool, args, .ok v⟩

theorem Carried.nil : Carried registry [] [] [] :=
  ⟨rfl, rfl, fun _ _ _ hs => by simp at hs⟩

theorem Carried.concat (h : Carried registry ss results calls) {tool : Tool σ} {args : Args}
    {v : Json} (hresolve : registry.resolve s.tool = .ok tool)
    (hargs : resolveArgs ss.length s results = .ok args) :
    Carried registry (ss ++ [s]) (results ++ [v]) (calls ++ [⟨s.tool, args, .ok v⟩]) where
  length_results := by simp [h.length_results]
  length_calls := by simp [h.length_calls]
  call i s' v' hs hv := by
    rcases Nat.lt_trichotomy i ss.length with hi | hi | hi
    · -- an earlier step: its call does not see the new result
      rw [List.getElem?_append_left hi] at hs
      rw [List.getElem?_append_left (h.length_results ▸ hi)] at hv
      rw [List.take_append_of_le_length (by rw [h.length_results]; omega),
        List.getElem?_append_left (h.length_calls ▸ hi)]
      exact h.call i s' v' hs hv
    · subst hi
      rw [List.getElem?_concat_length] at hs
      rw [← h.length_results, List.getElem?_concat_length] at hv
      cases hs
      cases hv
      refine ⟨tool, args, hresolve, ?_, ?_⟩
      · rw [List.take_left' h.length_results]
        exact hargs
      · rw [← h.length_calls, List.getElem?_concat_length]
    · have hnone : (ss ++ [s])[i]? = none := List.getElem?_eq_none (by simp; omega)
      rw [hnone] at hs
      cases hs

-- The log of steps that all complete.
theorem steps_logged_of_ok (hstart : context.runTrace = [])
    (h : steps registry token 0 ss context world = (.ok (), after, left)) :
    ∃ calls, steps registry.logged token.logged 0 ss context (world, []) =
        (.ok (), after, left, calls) ∧
      Carried registry ss after.runTrace calls := by
  induction ss using List.reverseRecOn generalizing after left with
  | nil =>
    cases h
    exact ⟨[], rfl, hstart ▸ Carried.nil⟩
  | append_singleton done s ih =>
    obtain ⟨before, reached, hdone, hstep⟩ := exists_of_steps_concat_ok h
    obtain ⟨calls, hlog, hcarried⟩ := ih hdone
    obtain ⟨more, htransition⟩ := transition_of_step hstep
    refine ⟨calls ++ more, ?_, ?_⟩
    · rw [steps_append_of_ok hlog, steps_cons_of_ok (htransition.logged calls).step_eq]
      rfl
    · rw [Nat.zero_add] at htransition
      cases htransition with
      | completed _ hresolve hargs _ => exact hcarried.concat hresolve hargs

-- The log of steps of which one fails: after the calls of those before it there are only its own.
theorem steps_logged_of_error {e : RunError} {state : RunState} (hstart : context.runTrace = [])
    (h : steps registry token 0 ss context world = (.error (e, state), after, left)) :
    ∃ done s rest before reached calls last, ss = done ++ s :: rest ∧ state = .failed done.length ∧
      steps registry token 0 done context world = (.ok (), before, reached) ∧
      Carried registry done before.runTrace calls ∧
      Transition registry token done.length s before reached (.error e) after left last ∧
      steps registry.logged token.logged 0 ss context (world, []) =
        (.error (e, state), after, left, calls ++ last) := by
  obtain ⟨done, s, rest, before, reached, rfl, rfl, hdone, hstop⟩ := exists_of_steps_error h
  obtain ⟨calls, hlog, hcarried⟩ := steps_logged_of_ok hstart hdone
  rw [Nat.zero_add] at hstop ⊢
  obtain ⟨last, htransition⟩ := transition_of_step hstop
  refine ⟨done, s, rest, before, reached, calls, last, rfl, rfl, hdone, hcarried, htransition, ?_⟩
  rw [steps_append_of_ok hlog, Nat.zero_add]
  exact steps_cons_of_error (htransition.logged calls).step_eq

theorem Transition.step_of_error {e : RunError}
    (h : Transition registry token place s context world (.error e) after left calls) :
    e.step = place := by
  cases h with
  | cancelled _ => rfl
  | unknown _ _ => rfl
  | unresolved _ _ hargs => exact step_of_resolveArgs_error hargs
  | failed _ _ _ _ => rfl

-- A step that fails has called its tool when the tool is what failed, and not otherwise.
theorem Transition.called_iff {e : RunError}
    (h : Transition registry token place s context world (.error e) after left calls) :
    calls ≠ [] ↔ ∃ cause, e = .toolFailed place s.tool cause := by
  cases h with
  | cancelled _ => simp
  | unknown _ _ => simp
  | unresolved _ _ hargs =>
    refine ⟨fun hne => absurd rfl hne, ?_⟩
    rintro ⟨cause, rfl⟩
    obtain ⟨x, _, hx⟩ := exists_of_resolveArgs_error hargs
    cases hx
  | failed _ _ _ _ => simp

-- A run that stops at a step: the steps before it are carried out and give the trace, the step
-- fails by the first cause that applies, and no step after it is begun.
structure Stopped (executor : Executor σ) (token : Token σ) (plan : Plan) (context : Context)
    (world : σ) (failure : Failure) (calls : List Call) : Prop where
  short : failure.trace.length < plan.length
  state : failure.state = .failed failure.trace.length
  step : failure.error.step = failure.trace.length
  runTrace : (executor.execute token plan context world).context.runTrace = failure.trace
  cause : ∃ s before reached done last,
    plan.steps[failure.trace.length]? = some s ∧
    steps executor.registry token 0 (plan.steps.take failure.trace.length) context.beginRun world =
      (.ok (), before, reached) ∧
    before.runTrace = failure.trace ∧
    Carried executor.registry (plan.steps.take failure.trace.length) failure.trace done ∧
    Transition executor.registry token failure.trace.length s before reached
      (.error failure.error) (executor.execute token plan context world).context
      (executor.execute token plan context world).world last ∧
    (last ≠ [] ↔ ∃ cause, failure.error = .toolFailed failure.trace.length s.tool cause) ∧
    calls = done ++ last

end Run

namespace Executor

open Run (Carried Stopped)

variable (executor : Executor σ) (token : Token σ) (plan : Plan) (context : Context) (world : σ)

-- The log of a run holds one call for each step that completes, and at most one more.
theorem execute_carried_or_stopped :
    ∃ calls : List Call,
      executor.logged.execute token.logged plan context (world, []) =
        ⟨(executor.execute token plan context world).result,
          (executor.execute token plan context world).context,
          (executor.execute token plan context world).world, calls⟩ ∧
      match (executor.execute token plan context world).result with
      | .ok results =>
        results.length = plan.length ∧
          (executor.execute token plan context world).context.runTrace = results ∧
          Carried executor.registry plan.steps results calls
      | .error failure => Stopped executor token plan context world failure calls := by
  cases hrun : Run.steps executor.registry token 0 plan.steps context.beginRun world with
  | mk result rest =>
  obtain ⟨after, left⟩ := rest
  cases result with
  | ok =>
    obtain ⟨calls, hlog, hcarried⟩ := Run.steps_logged_of_ok rfl hrun
    rw [execute_of_steps_ok hrun]
    exact ⟨calls, execute_of_steps_ok hlog, hcarried.length_results, rfl, hcarried⟩
  | error stop =>
    obtain ⟨e, state⟩ := stop
    obtain ⟨done, s, rest, before, reached, calls, last, hplan, hstate, hdone, hcarried, htransition,
      hlog⟩ := Run.steps_logged_of_error rfl hrun
    have htrace : after.runTrace = before.runTrace := htransition.runTrace_of_error
    have hlength : before.runTrace.length = done.length := hcarried.length_results
    have htake : plan.steps.take done.length = done := by rw [hplan, List.take_left' rfl]
    have hget : plan.steps[done.length]? = some s := by simp [hplan]
    have hshort : done.length < plan.length := by simp [Plan.length, hplan]
    rw [execute_of_steps_error hrun]
    refine ⟨calls ++ last, execute_of_steps_error hlog, ?_⟩
    dsimp only
    rw [htrace]
    constructor
    · exact hlength ▸ hshort
    · rw [hstate, hlength]
    · rw [htransition.step_of_error, hlength]
    · rw [execute_of_steps_error hrun, htrace]
    · rw [execute_of_steps_error hrun]
      simp only [hlength, htake]
      exact ⟨s, before, reached, calls, last, hget, hdone, rfl, hcarried, htransition,
        htransition.called_iff, rfl⟩

end Executor

end Stepwise
