import Stepwise.Proofs.Plan.Dependencies
import Stepwise.Proofs.Pointer.Basic
import Stepwise.Proofs.Run.Failure
import Stepwise.Proofs.Run.Isolation
import Stepwise.Proofs.Run.Stop

namespace Stepwise

-- The step that an error says is not among the results, if it says so.
def RunError.outOfRange? : RunError → Option Nat
  | .pointerOutOfRange _ _ target _ => some target
  | .toolFailed _ _ (.pointerOutOfRange _ _ target _) => some target
  | _ => none

section

variable {place target : Nat} {trace : List Json} {arg : String} {v w : Json} {p : Pointer}

theorem lt_length_of_resolveArg (h : resolveArg place trace arg v = .ok w)
    (hp : Pointer.detect? v = some (.ok p)) : p.step < trace.length := by
  simp only [resolveArg, hp] at h
  split at h
  · next hresolve => exact Pointer.lt_length_of_resolve hresolve
  · cases h

theorem outOfRange_of_resolveArg {e : RunError} (h : resolveArg place trace arg v = .error e)
    (he : e.outOfRange? = some target) :
    ∃ p, Pointer.detect? v = some (.ok p) ∧ p.step = target ∧ trace.length ≤ target := by
  unfold resolveArg at h
  split at h
  · cases h
  · cases h
    cases he
  · next p hp =>
    split at h
    · cases h
    · next fault hfault =>
      cases h
      cases fault with
      | outOfRange reached length =>
        cases he
        exact ⟨p, hp, Pointer.outOfRange_of_resolve hfault⟩
      | path fault => cases he
      | malformed cause => cases he

end

namespace Compute

variable {trace : List Json} {place target : Nat} {items ws : List Json} {args : Args} {v w : Json}

theorem lt_length_of_resolveInput (h : resolveInput trace place v = .ok w) {p : Pointer}
    (hp : Pointer.detect? v = some (.ok p)) : p.step < trace.length := by
  simp only [resolveInput, hp] at h
  split at h
  · next hresolve => exact Pointer.lt_length_of_resolve hresolve
  · cases h
  · cases h

theorem exists_of_resolveInputsFrom_ok (h : resolveInputsFrom trace place items = .ok ws) :
    ∀ v ∈ items, ∃ i w, resolveInput trace i v = .ok w := by
  induction items generalizing place ws with
  | nil => simp
  | cons v rest ih =>
    unfold resolveInputsFrom at h
    split at h
    · cases h
    · next w hw =>
      obtain ⟨ws', hrest, _⟩ := map_eq_ok_iff.1 h
      exact List.forall_mem_cons.2 ⟨⟨place, w, hw⟩, ih hrest⟩

theorem exists_of_resolveInputsFrom_error {e : ToolError}
    (h : resolveInputsFrom trace place items = .error e) :
    ∃ v ∈ items, ∃ i, resolveInput trace i v = .error e := by
  induction items generalizing place with
  | nil => cases h
  | cons v rest ih =>
    unfold resolveInputsFrom at h
    split at h
    · next hv =>
      cases h
      exact ⟨v, List.mem_cons_self, place, hv⟩
    · obtain ⟨v', hv', i, hi⟩ := ih (map_eq_error_iff.1 h)
      exact ⟨v', List.mem_cons_of_mem _ hv', i, hi⟩

theorem outOfRange_of_resolveInput {tool arg : String} {length : Nat}
    (h : resolveInput trace place v = .error (.pointerOutOfRange tool arg target length)) :
    ∃ p, Pointer.detect? v = some (.ok p) ∧ p.step = target ∧ trace.length ≤ target := by
  unfold resolveInput at h
  split at h
  · cases h
  · cases h
  · next p hp =>
    split at h
    · cases h
    · next hfault =>
      cases h
      exact ⟨p, hp, Pointer.outOfRange_of_resolve hfault⟩
    · cases h

-- A computation that has a result has resolved all its inputs.
theorem exists_of_result_ok (h : result args trace = .ok v) :
    ∃ ws, resolveInputs args trace = .ok ws := by
  unfold result at h
  obtain ⟨opName, _, h⟩ := bind_eq_ok_iff.1 h
  split at h
  · cases h
  · obtain ⟨ws, hws, _⟩ := bind_eq_ok_iff.1 h
    exact ⟨ws, hws⟩

-- Only its inputs can be out of range.
theorem resolveInputs_of_result_outOfRange {op tool arg : String} {length : Nat}
    (hop : args.get? "op" = some (.str op))
    (h : result args trace = .error (.pointerOutOfRange tool arg target length)) :
    resolveInputs args trace = .error (.pointerOutOfRange tool arg target length) := by
  unfold result at h
  rw [Args.requireText_of_get? hop] at h
  rcases bind_eq_error_iff.1 h with hnever | ⟨_, hop', h⟩
  · cases hnever
  cases hop'
  split at h
  · cases h
  rcases bind_eq_error_iff.1 h with hinputs | ⟨ws, _, h⟩
  · exact hinputs
  dsimp only at h
  split at h
  · rw [pure_bind] at h
    split at h <;> cases h
  · rw [pure_bind] at h
    split at h <;> cases h
  · cases h

end Compute

-- Of the built-in tools only the computation resolves pointers.
theorem Foreseen.kind_of_outOfRange {place n target length : Nat} {s : Step} {name tool arg : String}
    (h : Foreseen place s (.toolFailed n name (.pointerOutOfRange tool arg target length))) :
    s.kind? = some .compute := by
  cases h with
  | pointer _ hfailure => cases hfailure
  | fetch _ _ hfailure => cases hfailure
  | extract _ _ hfailure => cases hfailure
  | compute hkind _ => exact hkind

namespace Run

variable {ν : Type} {settings : Settings} {network : Network ν} {wording : Extract.Wording}
  {token : Token (World ν)} {place target : Nat} {s : Step} {context after : Context}
  {world left : World ν} {calls : List Call}

-- A step that completes has resolved all the pointers that it uses.
theorem Transition.lt_length_of_uses
    (h : Transition (builtinRegistry settings network wording) token place s context world (.ok ())
      after left calls) {p : Pointer} (hp : s.Uses p) : p.step < context.runTrace.length := by
  cases h with
  | completed _ hresolve hargs hcall =>
    cases hp with
    | arg hget hp =>
      obtain ⟨w, _, hw⟩ := get?_of_resolveArgs hargs hget
      exact lt_length_of_resolveArg hw hp
    | input hkind hinputs hv hp =>
      rw [resolve_builtinRegistry settings network wording hkind] at hresolve
      cases hresolve
      obtain ⟨ws, hws⟩ := Compute.exists_of_result_ok (congrArg Prod.fst hcall)
      have hinputs' := get?_of_resolveArgs_literal hargs hinputs rfl
      simp only [Compute.resolveInputs, hinputs'] at hws
      obtain ⟨i, w, hw⟩ := Compute.exists_of_resolveInputsFrom_ok hws _ hv
      exact Compute.lt_length_of_resolveInput hw hp

-- The two ways to resolve a pointer, by the executor and by the computation, give the two errors of
-- one that is out of range. In both the pointer is a target of the step.
theorem Transition.mem_targets_of_outOfRange (hchecked : Checked s) {e : RunError}
    (h : Transition (builtinRegistry settings network wording) token place s context world (.error e)
      after left calls) (he : e.outOfRange? = some target) :
    target ∈ s.targets ∧ context.runTrace.length ≤ target := by
  cases h with
  | cancelled _ => cases he
  | unknown _ _ => cases he
  | unresolved _ _ hargs =>
    obtain ⟨x, hx, hxe⟩ := exists_of_resolveEntries_error (map_eq_error_iff.1 hargs)
    obtain ⟨p, hp, rfl, hle⟩ := outOfRange_of_resolveArg hxe he
    exact ⟨Step.mem_targets_of_arg hx hp, hle⟩
  | @failed _ _ cause _ _ _ hresolve hargs hcall =>
    cases cause with
    | pointerOutOfRange tool arg reached length =>
      cases he
      have hkind := (foreseen_of_call hchecked hresolve hargs hcall).kind_of_outOfRange
      rw [resolve_builtinRegistry settings network wording hkind] at hresolve
      cases hresolve
      cases hchecked with
      | compute _ hname _ hinputs _ _ _ =>
        have hinputs' := get?_of_resolveArgs_literal hargs hinputs rfl
        have hfailed := Compute.resolveInputs_of_result_outOfRange
          (get?_of_resolveArgs_literal hargs hname rfl) (congrArg Prod.fst hcall)
        simp only [Compute.resolveInputs, hinputs'] at hfailed
        obtain ⟨v, hv, i, hi⟩ := Compute.exists_of_resolveInputsFrom_error hfailed
        obtain ⟨p, hp, rfl, hle⟩ := Compute.outOfRange_of_resolveInput hi
        exact ⟨Step.mem_targets_of_input hinputs hv hp, hle⟩
      | search hkind' | fetch hkind' | parse hkind' | store hkind' => cases hkind.symm.trans hkind'
    | _ => cases he

end Run

namespace Executor

theorem reaches_of_execute_ok {σ : Type} {executor : Executor σ} {token : Token σ} {plan : Plan}
    {context : Context} {world : σ} {results : List Json}
    (h : (executor.execute token plan context world).result = .ok results) :
    executor.Reaches token plan context world plan.length
      (executor.execute token plan context world).context
      (executor.execute token plan context world).world := by
  cases hrun : Run.steps executor.registry token 0 plan.steps context.beginRun world with
  | mk result rest =>
  obtain ⟨after, left⟩ := rest
  cases result with
  | ok =>
    rw [execute_of_steps_ok hrun, Reaches, Plan.length, List.take_length]
    exact hrun
  | error stop =>
    rw [execute_of_steps_error hrun] at h
    cases h

variable {ν : Type} {settings : Settings} {network : Network ν} {wording : Extract.Wording}
  {token : Token (World ν)} {plan : Plan} {context : Context} {world : World ν} {failure : Failure}

-- What a run finds out of range, the dependencies of its plan list as dangling.
theorem mem_dangling_of_outOfRange
    (h : ((builtin settings network wording).execute token plan context world).result =
      .error failure) {target : Nat} (he : failure.error.outOfRange? = some target) :
    (failure.error.step, target) ∈ plan.dependencies.dangling := by
  obtain ⟨s, before, reached, calls, hfails⟩ := exists_failsAt h
  have hchecked : Checked s := Plan.checked_of_mem (List.mem_of_getElem? hfails.getElem?)
  obtain ⟨htarget, hle⟩ := hfails.transition.mem_targets_of_outOfRange hchecked he
  rw [← hfails.trace, hfails.length] at hle
  exact Plan.mem_dangling.2 ⟨s, hfails.getElem?, htarget, hle⟩

-- No steps that include a dangling pointer are ever all completed.
theorem le_of_reaches {place k : Nat} {s : Step} {p : Pointer} {before : Context}
    {reached : World ν} (hs : plan.steps[place]? = some s) (hp : s.Uses p) (hle : place ≤ p.step)
    (hreaches : (builtin settings network wording).Reaches token plan context world k before
      reached) :
    k ≤ place := by
  by_contra hlt
  have hs' : (plan.steps.take k)[place]? = some s := by
    rw [List.getElem?_take_of_lt (Nat.lt_of_not_le hlt)]
    exact hs
  obtain ⟨start, world', _, _, _, hlength, htransition⟩ :=
    Run.exists_transition_of_steps_ok rfl hreaches hs'
  have hstep := htransition.lt_length_of_uses hp
  omega

-- Dangling pointers are the runs that fail on them, told beforehand. Without any, no run fails by a
-- pointer that is out of range, in the arguments or in a computation. With one that a step uses, no
-- run gets past that step: it fails there or earlier, and never has a result of it.
theorem execute_of_dangling {ν : Type} (settings : Settings) (network : Network ν)
    (wording : Extract.Wording) (token : Token (World ν)) (plan : Plan) (context : Context)
    (world : World ν) :
    (plan.dependencies.dangling = [] → ∀ failure,
      ((builtin settings network wording).execute token plan context world).result =
        .error failure → failure.error.outOfRange? = none) ∧
    ∀ place target s p, (place, target) ∈ plan.dependencies.dangling →
      plan.steps[place]? = some s → s.Uses p → p.step = target →
      (∃ failure k,
        ((builtin settings network wording).execute token plan context world).result =
          .error failure ∧ k ≤ place ∧ failure.error.step = k ∧ failure.state = .failed k ∧
          failure.trace.length = k) ∧
      ((builtin settings network wording).execute token plan context
        world).context.runTrace[place]? = none ∧
      ∀ k before reached,
        (builtin settings network wording).Reaches token plan context world k before reached →
          before.runTrace[place]? = none := by
  constructor
  · intro hnone failure hfailure
    cases htarget : failure.error.outOfRange? with
    | none => rfl
    | some target =>
      have hmem := mem_dangling_of_outOfRange hfailure htarget
      rw [hnone] at hmem
      cases hmem
  · rintro place _ s p hmem hs hp rfl
    obtain ⟨_, _, _, hle⟩ := Plan.mem_dangling.1 hmem
    have hplace : place < plan.steps.length := (List.getElem?_eq_some_iff.1 hs).1
    have hreach {k : Nat} {before : Context} {reached : World ν}
        (h : (builtin settings network wording).Reaches token plan context world k before reached) :
        before.runTrace.length ≤ place := by
      rw [Run.length_runTrace_of_steps_ok h, List.length_take]
      have hk := le_of_reaches hs hp hle h
      have hstart : context.beginRun.runTrace.length = 0 := rfl
      omega
    cases hresult : ((builtin settings network wording).execute token plan context world).result with
    | ok results =>
      have hk : plan.length ≤ place := le_of_reaches hs hp hle (reaches_of_execute_ok hresult)
      exact absurd hplace (Nat.not_lt_of_le hk)
    | error failure =>
      obtain ⟨s', before, reached, calls, hfails⟩ := exists_failsAt hresult
      have hk : failure.error.step ≤ place := le_of_reaches hs hp hle hfails.done
      refine ⟨⟨failure, _, rfl, hk, rfl, hfails.state, hfails.length⟩, ?_, ?_⟩
      · rw [hfails.runTrace]
        exact List.getElem?_eq_none (hfails.length ▸ hk)
      · intro k before reached h
        exact List.getElem?_eq_none (hreach h)

end Executor

-- A computation that points to its own result, which is the least pointer to dangle.
def Plan.mergeItself : Plan where
  steps :=
    [⟨"read", "Store", .ofList [("action", .str "read"), ("key", .str "a")]⟩,
     ⟨"merge", "Compute", .ofList [("op", .str "merge"),
       ("inputs", .arr [.obj [("from", .ofNat 1), ("field", .str "")]])]⟩]
  valid := by decide

theorem Executor.execute_of_dangling_mergeItself :
    (∃ failure, ((builtin {} (Network.closed (ν := Unit)) .plain).execute Token.never
        Plan.filterByWritten (.ofGoal "") ⟨.empty, ()⟩).result = .error failure ∧
          failure.error.outOfRange? = none) ∧
      ∃ failure k, ((builtin {} (Network.closed (ν := Unit)) .plain).execute Token.never
        Plan.mergeItself (.ofGoal "") ⟨.empty, ()⟩).result = .error failure ∧ k ≤ 1 ∧
          failure.error.step = k ∧ failure.state = .failed k ∧ failure.trace.length = k := by
  constructor
  · refine ⟨_, rfl, ?_⟩
    exact (execute_of_dangling {} Network.closed .plain Token.never Plan.filterByWritten (.ofGoal "")
      ⟨.empty, ()⟩).1 (by decide) _ rfl
  · exact ((execute_of_dangling {} Network.closed .plain Token.never Plan.mergeItself (.ofGoal "")
      ⟨.empty, ()⟩).2 1 1 _ ⟨1, ""⟩ (by decide) rfl
        (.input rfl rfl List.mem_cons_self rfl) rfl).1

end Stepwise
