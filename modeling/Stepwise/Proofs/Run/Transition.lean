import Stepwise.Run.Basic

namespace Stepwise.Run

-- A call of a tool: the name it is registered under, its arguments, and what it gives back.
structure Call where
  tool : String
  args : Args
  result : Except ToolError Json

-- What one step can do, and the calls that it makes. The four ways to fail stand in the order in
-- which they are looked at: each says that those before it do not apply.
inductive Transition {σ : Type} (registry : Registry (Tool σ)) (token : Token σ) (place : Nat)
    (s : Step) (context : Context) (world : σ) :
    Except RunError Unit → Context → σ → List Call → Prop
  | cancelled (htoken : token place world = true) :
    Transition registry token place s context world (.error (.cancelled place)) context world []
  | unknown {e : RegistryError} (htoken : token place world = false)
      (hresolve : registry.resolve s.tool = .error e) :
    Transition registry token place s context world (.error (.toolNotFound place s.tool))
      context world []
  | unresolved {tool : Tool σ} {e : RunError} (htoken : token place world = false)
      (hresolve : registry.resolve s.tool = .ok tool)
      (hargs : resolveArgs place s context.runTrace = .error e) :
    Transition registry token place s context world (.error e) context world []
  | failed {tool : Tool σ} {args : Args} {e : ToolError} {frame : Frame} {after : σ}
      (htoken : token place world = false) (hresolve : registry.resolve s.tool = .ok tool)
      (hargs : resolveArgs place s context.runTrace = .ok args)
      (hcall : tool.call args context world = (.error e, frame, after)) :
    Transition registry token place s context world (.error (.toolFailed place s.tool e))
      { context with frame } after [⟨s.tool, args, .error e⟩]
  | completed {tool : Tool σ} {args : Args} {v : Json} {frame : Frame} {after : σ}
      (htoken : token place world = false) (hresolve : registry.resolve s.tool = .ok tool)
      (hargs : resolveArgs place s context.runTrace = .ok args)
      (hcall : tool.call args context world = (.ok v, frame, after)) :
    Transition registry token place s context world (.ok ())
      ({ context with frame }.record v) after [⟨s.tool, args, .ok v⟩]

section

variable {σ : Type} {registry : Registry (Tool σ)} {token : Token σ} {place : Nat} {s : Step}
  {context after : Context} {world left : σ} {result : Except RunError Unit} {calls : List Call}

theorem transition_of_step
    (h : step registry token place s context world = (result, after, left)) :
    ∃ calls, Transition registry token place s context world result after left calls := by
  unfold step at h
  split at h
  · next htoken =>
    cases h
    exact ⟨[], .cancelled htoken⟩
  · next htoken =>
    have hquiet : token place world = false := Bool.eq_false_iff.2 htoken
    split at h
    · next e hresolve =>
      cases h
      exact ⟨[], .unknown hquiet hresolve⟩
    · next tool hresolve =>
      split at h
      · next e hargs =>
        cases h
        exact ⟨[], .unresolved hquiet hresolve hargs⟩
      · next args hargs =>
        split at h
        · next e frame left' hcall =>
          cases h
          exact ⟨_, .failed hquiet hresolve hargs hcall⟩
        · next v frame left' hcall =>
          cases h
          exact ⟨_, .completed hquiet hresolve hargs hcall⟩

theorem Transition.step_eq
    (h : Transition registry token place s context world result after left calls) :
    step registry token place s context world = (result, after, left) := by
  cases h with
  | cancelled htoken => simp only [step, htoken, if_true]
  | unknown htoken hresolve => simp [step, htoken, hresolve]
  | unresolved htoken hresolve hargs => simp [step, htoken, hresolve, hargs]
  | failed htoken hresolve hargs hcall => simp [step, htoken, hresolve, hargs, hcall]
  | completed htoken hresolve hargs hcall => simp [step, htoken, hresolve, hargs, hcall]

-- No step touches what earlier runs have left in the trace.
theorem Transition.earlier_eq
    (h : Transition registry token place s context world result after left calls) :
    after.earlier = context.earlier := by
  cases h <;> rfl

theorem Transition.runTrace_of_error {e : RunError}
    (h : Transition registry token place s context world (.error e) after left calls) :
    after.runTrace = context.runTrace := by
  cases h <;> rfl

end

end Stepwise.Run
