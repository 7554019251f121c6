import Stepwise.Proofs.Run.Steps
import Stepwise.Proofs.Tool.Agreement

namespace Stepwise

variable {σ ν : Type}

-- What a later context keeps of an earlier one: all results, in their places, and the frame.
structure Context.Extends (earlier later : Context) : Prop where
  trace : earlier.trace <+: later.trace
  frame : later.frame = earlier.frame

theorem Context.trace_beginRun (c : Context) : c.beginRun.trace = c.trace :=
  List.append_nil _

-- The results of a run, complete or not.
def Outcome.results (o : Outcome σ) : List Json :=
  match o.result with
  | .ok results => results
  | .error failure => failure.trace

namespace Run

variable {settings : Settings} {network : Network ν} {wording : Extract.Wording}
  {token : Token (World ν)} {place : Nat} {context : Context} {world : World ν}

theorem Transition.extends {s : Step} {result : Except RunError Unit} {after : Context}
    {left : World ν} {calls : List Call}
    (h : Transition (builtinRegistry settings network wording) token place s context world result
      after left calls) : context.Extends after := by
  cases h with
  | cancelled _ | unknown _ _ | unresolved _ _ _ => exact ⟨List.prefix_rfl, rfl⟩
  | failed _ hresolve _ hcall => exact ⟨List.prefix_rfl, frame_eq_of_call hresolve hcall⟩
  | completed _ hresolve _ hcall =>
    exact ⟨⟨[_], List.append_assoc _ _ _⟩, frame_eq_of_call hresolve hcall⟩

theorem extends_of_steps {ss : List Step} {result : Except (RunError × RunState) Unit}
    {after : Context} {left : World ν}
    (h : steps (builtinRegistry settings network wording) token place ss context world =
      (result, after, left)) : context.Extends after := by
  induction ss generalizing place context world with
  | nil =>
    cases h
    exact ⟨List.prefix_rfl, rfl⟩
  | cons s rest ih =>
    simp only [steps] at h
    split at h
    · next hstep =>
      cases h
      obtain ⟨calls, htransition⟩ := transition_of_step hstep
      exact htransition.extends
    · next hstep =>
      obtain ⟨calls, htransition⟩ := transition_of_step hstep
      have hfirst := htransition.extends
      have hrest := ih h
      exact ⟨hfirst.trace.trans hrest.trace, hrest.frame.trans hfirst.frame⟩

end Run

namespace Executor

-- Plans carried out one after another, each with its token, on one context and one world.
def session (executor : Executor σ) :
    List (Token σ × Plan) → Context → σ → List (Outcome σ) × Context × σ
  | [], context, world => ([], context, world)
  | (token, plan) :: rest, context, world =>
    let outcome := executor.execute token plan context world
    let (outcomes, after, left) := executor.session rest outcome.context outcome.world
    (outcome :: outcomes, after, left)

section

variable {executor : Executor σ} {token : Token σ} {plan : Plan} {context : Context} {world : σ}

theorem results_execute :
    (executor.execute token plan context world).results =
      (executor.execute token plan context world).context.runTrace := by
  unfold execute
  split <;> rfl

-- A run adds its results, and only them, to the end of the trace.
theorem trace_execute :
    (executor.execute token plan context world).context.trace =
      context.trace ++ (executor.execute token plan context world).results := by
  have hearlier : (executor.execute token plan context world).context.earlier = context.trace := by
    rw [context_execute]
    exact Run.earlier_of_steps rfl
  rw [results_execute, Context.trace, hearlier, Context.runTrace]

theorem length_session (runs : List (Token σ × Plan)) :
    (executor.session runs context world).1.length = runs.length := by
  induction runs generalizing context world with
  | nil => rfl
  | cons run rest ih =>
    simp only [session, List.length_cons]
    rw [ih]

theorem trace_session (runs : List (Token σ × Plan)) :
    (executor.session runs context world).2.1.trace =
      context.trace ++ (executor.session runs context world).1.flatMap Outcome.results := by
  induction runs generalizing context world with
  | nil => simp [session]
  | cons run rest ih =>
    simp only [session, List.flatMap_cons]
    rw [ih, trace_execute, List.append_assoc]

-- Each run of a session starts from what the runs before it leave.
theorem getElem?_session {runs : List (Token σ × Plan)} {i : Nat} {outcome : Outcome σ}
    (hrun : runs[i]? = some (token, plan))
    (houtcome : (executor.session runs context world).1[i]? = some outcome) :
    outcome = executor.execute token plan (executor.session (runs.take i) context world).2.1
      (executor.session (runs.take i) context world).2.2 := by
  induction runs generalizing context world i with
  | nil => cases hrun
  | cons run rest ih =>
    cases i with
    | zero =>
      cases hrun
      cases houtcome
      rfl
    | succ i => exact ih hrun houtcome

end

variable {settings : Settings} {network : Network ν} {wording : Extract.Wording}
  {token : Token (World ν)} {plan : Plan} {context : Context} {world : World ν}

theorem extends_execute :
    context.Extends
      ((builtin settings network wording).execute token plan context world).context := by
  have hextends : context.beginRun.Extends
      ((builtin settings network wording).execute token plan context world).context := by
    rw [context_execute]
    exact Run.extends_of_steps rfl
  exact ⟨context.trace_beginRun ▸ hextends.trace, hextends.frame⟩

theorem frame_session (runs : List (Token (World ν) × Plan)) :
    ((builtin settings network wording).session runs context world).2.1.frame = context.frame := by
  induction runs generalizing context world with
  | nil => rfl
  | cons run rest ih =>
    simp only [session]
    rw [ih, extends_execute.frame]

end Executor

end Stepwise
