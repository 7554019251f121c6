import Stepwise.Proofs.Run.Agreement
import Stepwise.Proofs.Run.Session

namespace Stepwise

variable {σ ν μ : Type}

-- A step and a plan without their labels.
def Step.unlabelled (s : Step) : String × Dict Json := (s.tool, s.args)

def Plan.unlabelled (p : Plan) : List (String × Dict Json) := p.steps.map Step.unlabelled

namespace Run

section

variable {registry : Registry (Tool σ)} {token : Token σ} {place : Nat} {context : Context}
  {world : σ}

theorem step_of_unlabelled {s s' : Step} (h : s.unlabelled = s'.unlabelled) :
    step registry token place s context world = step registry token place s' context world := by
  obtain ⟨label, tool, args⟩ := s
  obtain ⟨label', tool', args'⟩ := s'
  cases h
  rfl

-- No label is read.
theorem steps_of_unlabelled {ss ss' : List Step}
    (h : ss.map Step.unlabelled = ss'.map Step.unlabelled) :
    steps registry token place ss context world = steps registry token place ss' context world := by
  induction ss generalizing ss' place context world with
  | nil =>
    rw [List.map_nil, eq_comm, List.map_eq_nil_iff] at h
    rw [h]
  | cons s rest ih =>
    cases ss' with
    | nil => cases h
    | cons s' rest' =>
      rw [List.map_cons, List.map_cons, List.cons.injEq] at h
      simp only [steps, step_of_unlabelled h.1]
      split
      · rfl
      · exact ih h.2

end

variable {settings : Settings} {network : Network ν} {network' : Network μ}
  {wording : Extract.Wording} {token : Token (World ν)} {token' : Token (World μ)} {place : Nat}
  {context context' : Context} {world : World ν} {world' : World μ}

-- Two runs of steps that end alike, with the same results and the same store.
structure SameEnd {ε : Type} (a : Except ε Unit × Context × World ν)
    (b : Except ε Unit × Context × World μ) : Prop where
  result : a.1 = b.1
  runTrace : a.2.1.runTrace = b.2.1.runTrace
  store : a.2.2.store = b.2.2.store

-- With the same results so far, all that a step reads of the trace is the same.
theorem sameEnd_step {s : Step} (hchecked : Checked s)
    (htrace : context.runTrace = context'.runTrace) (hstore : world.store = world'.store)
    (htoken : token place world = token' place world')
    (hreply : SameReply settings network network' s world world') :
    SameEnd (step (builtinRegistry settings network wording) token place s context world)
      (step (builtinRegistry settings network' wording) token' place s context' world') := by
  have hagree : Agreement context context'
      (step (builtinRegistry settings network wording) token place s context world)
      (step (builtinRegistry settings network' wording) token' place s context' world') :=
    step_agree hchecked htoken (by rw [htrace]) (fun args _ _ => by rw [htrace]) hstore hreply
  obtain ⟨vs, hadded, hadded'⟩ := hagree.added
  exact ⟨hagree.result, by rw [hadded, hadded', htrace], hagree.store⟩

theorem SameEnd.steps {s : Step} {registry : Registry (Tool (World ν))}
    {registry' : Registry (Tool (World μ))}
    (h : SameEnd (step registry token place s context world)
      (step registry' token' place s context' world')) :
    SameEnd (steps registry token place [s] context world)
      (steps registry' token' place [s] context' world') := by
  cases hstep : step registry token place s context world with
  | mk r rest =>
  cases hstep' : step registry' token' place s context' world' with
  | mk r' rest' =>
  rw [hstep, hstep'] at h
  cases (show r = r' from h.result)
  cases r with
  | error e =>
    rw [steps_cons_of_error hstep, steps_cons_of_error hstep']
    exact ⟨rfl, h.runTrace, h.store⟩
  | ok =>
    rw [steps_cons_of_ok hstep, steps_cons_of_ok hstep']
    exact ⟨rfl, h.runTrace, h.store⟩

theorem sameEnd_steps_concat {done : List Step} {s : Step} (hchecked : Checked s)
    (hdone : SameEnd
      (steps (builtinRegistry settings network wording) token place done context world)
      (steps (builtinRegistry settings network' wording) token' place done context' world'))
    (hinputs : ∀ before before' reached reached',
      steps (builtinRegistry settings network wording) token place done context world =
        (.ok (), before, reached) →
      steps (builtinRegistry settings network' wording) token' place done context' world' =
        (.ok (), before', reached') →
      token (place + done.length) reached = token' (place + done.length) reached' ∧
        SameReply settings network network' s reached reached') :
    SameEnd
      (steps (builtinRegistry settings network wording) token place (done ++ [s]) context world)
      (steps (builtinRegistry settings network' wording) token' place (done ++ [s]) context'
        world') := by
  cases hrun : steps (builtinRegistry settings network wording) token place done context world with
  | mk r rest =>
  obtain ⟨before, reached⟩ := rest
  cases hrun' : steps (builtinRegistry settings network' wording) token' place done context'
    world' with
  | mk r' rest' =>
  obtain ⟨before', reached'⟩ := rest'
  rw [hrun, hrun'] at hdone
  cases (show r = r' from hdone.result)
  cases r with
  | error stop =>
    rw [steps_append, steps_append, hrun, hrun']
    exact ⟨rfl, hdone.runTrace, hdone.store⟩
  | ok =>
    obtain ⟨htoken, hreply⟩ := hinputs before before' reached reached' hrun hrun'
    rw [steps_append_of_ok hrun, steps_append_of_ok hrun']
    exact (sameEnd_step hchecked hdone.runTrace hdone.store htoken hreply).steps

end Run

namespace Executor

-- A run comes to the step at `place` with this context and this world.
def Reaches (executor : Executor σ) (token : Token σ) (plan : Plan) (context : Context) (world : σ)
    (place : Nat) (before : Context) (reached : σ) : Prop :=
  Run.steps executor.registry token 0 (plan.steps.take place) context.beginRun world =
    (.ok (), before, reached)

-- Two runs that hear the same from outside. At a step that both come to, the token reads the same,
-- and what the step fetches is answered the same.
def SameInputs (settings : Settings) (network : Network ν) (network' : Network μ)
    (wording : Extract.Wording) (token : Token (World ν)) (token' : Token (World μ))
    (plan plan' : Plan) (context context' : Context) (world : World ν) (world' : World μ) : Prop :=
  ∀ place s before before' reached reached', plan.steps[place]? = some s →
    (builtin settings network wording).Reaches token plan context world place before reached →
    (builtin settings network' wording).Reaches token' plan' context' world' place before'
      reached' →
    token place reached = token' place reached' ∧
      SameReply settings network network' s reached reached'

variable {settings : Settings} {network : Network ν} {network' : Network μ}
  {wording : Extract.Wording} {token : Token (World ν)} {token' : Token (World μ)}
  {plan plan' : Plan} {context context' : Context} {world : World ν} {world' : World μ}

theorem sameInputs_of_unlabelled (hplan : plan.unlabelled = plan'.unlabelled)
    (h : SameInputs settings network network' wording token token' plan plan' context context' world
      world') :
    SameInputs settings network network' wording token token' plan plan context context' world
      world' := by
  intro place s before before' reached reached' hs hreaches hreaches'
  refine h place s before before' reached reached' hs hreaches ?_
  have htake : (plan.steps.take place).map Step.unlabelled =
      (plan'.steps.take place).map Step.unlabelled := by
    rw [List.map_take, List.map_take]
    exact congrArg (List.take place) hplan
  unfold Reaches at hreaches' ⊢
  rw [← Run.steps_of_unlabelled htake]
  exact hreaches'

-- Up to any step, the two runs stay together.
theorem sameEnd_take (hstore : world.store = world'.store)
    (hinputs : SameInputs settings network network' wording token token' plan plan context context'
      world world') (place : Nat) :
    Run.SameEnd
      (Run.steps (builtin settings network wording).registry token 0 (plan.steps.take place)
        context.beginRun world)
      (Run.steps (builtin settings network' wording).registry token' 0 (plan.steps.take place)
        context'.beginRun world') := by
  induction place with
  | zero => exact ⟨rfl, rfl, hstore⟩
  | succ place ih =>
    rcases Nat.lt_or_ge place plan.steps.length with hlt | hge
    · have hs : plan.steps[place]? = some plan.steps[place] := List.getElem?_eq_getElem hlt
      have hlength : 0 + (plan.steps.take place).length = place := by
        rw [List.length_take]
        omega
      rw [← List.take_append_getElem hlt]
      refine Run.sameEnd_steps_concat (Plan.checked_of_mem (List.getElem_mem hlt)) ih ?_
      intro before before' reached reached' hreaches hreaches'
      rw [hlength]
      exact hinputs place _ before before' reached reached' hs hreaches hreaches'
    · rw [List.take_of_length_le hge] at ih
      rw [List.take_of_length_le (Nat.le_succ_of_le hge)]
      exact ih

theorem execute_of_sameInputs (hplan : plan.unlabelled = plan'.unlabelled)
    (hstore : world.store = world'.store)
    (hinputs : SameInputs settings network network' wording token token' plan plan' context context'
      world world') :
    ((builtin settings network wording).execute token plan context world).result =
        ((builtin settings network' wording).execute token' plan' context' world').result ∧
      ((builtin settings network wording).execute token plan context world).world.store =
        ((builtin settings network' wording).execute token' plan' context' world').world.store := by
  have hend := sameEnd_take hstore (sameInputs_of_unlabelled hplan hinputs) plan.steps.length
  rw [List.take_length] at hend
  cases hrun : Run.steps (builtin settings network wording).registry token 0 plan.steps
    context.beginRun world with
  | mk r rest =>
  obtain ⟨after, left⟩ := rest
  cases hrun' : Run.steps (builtin settings network' wording).registry token' 0 plan.steps
    context'.beginRun world' with
  | mk r' rest' =>
  obtain ⟨after', left'⟩ := rest'
  rw [hrun, hrun'] at hend
  cases (show r = r' from hend.result)
  have htrace : after.runTrace = after'.runTrace := hend.runTrace
  rw [Run.steps_of_unlabelled hplan] at hrun'
  cases r with
  | ok =>
    rw [execute_of_steps_ok hrun, execute_of_steps_ok hrun', htrace]
    exact ⟨rfl, hend.store⟩
  | error stop =>
    obtain ⟨e, state⟩ := stop
    rw [execute_of_steps_error hrun, execute_of_steps_error hrun', htrace]
    exact ⟨rfl, hend.store⟩

-- Runs on one context and one world are kept apart. What earlier runs have left in the trace stays
-- as it is, at every moment, and no frame changes. And a run depends on nothing but its plan without
-- labels, the store, the replies and the token: any other run with the same of these, on whatever
-- context, has the same result and leaves the same store.
theorem session_isolated (settings : Settings) (network : Network ν) (network' : Network μ)
    (wording : Extract.Wording) (runs : List (Token (World ν) × Plan)) (context : Context)
    (world : World ν) :
    (((builtin settings network wording).session runs context world).1.length = runs.length ∧
      ((builtin settings network wording).session runs context world).2.1.trace =
        context.trace ++ ((builtin settings network wording).session runs context world).1.flatMap
          Outcome.results ∧
      ((builtin settings network wording).session runs context world).2.1.frame = context.frame) ∧
    (∀ before : Context, before.Extends before.beginRun) ∧
    (∀ (token : Token (World ν)) place ss (before : Context) reached, before.Extends
      (Run.steps (builtinRegistry settings network wording) token place ss before reached).2.1) ∧
    ∀ i token plan outcome before reached, runs[i]? = some (token, plan) →
      ((builtin settings network wording).session runs context world).1[i]? = some outcome →
      ((builtin settings network wording).session (runs.take i) context world).2 =
        (before, reached) →
      ∀ (token' : Token (World μ)) (plan' : Plan) (context' : Context) (world' : World μ),
        plan.unlabelled = plan'.unlabelled → reached.store = world'.store →
        SameInputs settings network network' wording token token' plan plan' before context' reached
          world' →
        outcome.result =
            ((builtin settings network' wording).execute token' plan' context' world').result ∧
          outcome.world.store =
            ((builtin settings network' wording).execute token' plan' context' world').world.store :=
    by
  refine ⟨⟨length_session runs, trace_session runs, frame_session runs⟩, ?_, ?_, ?_⟩
  · intro before
    exact ⟨before.trace_beginRun ▸ List.prefix_rfl, rfl⟩
  · intro token place ss before reached
    exact Run.extends_of_steps rfl
  · intro i token plan outcome before reached hrun houtcome hstart token' plan' context' world'
      hplan hstore hinputs
    have houtcome' := getElem?_session hrun houtcome
    rw [hstart] at houtcome'
    rw [houtcome']
    exact execute_of_sameInputs hplan hstore hinputs

end Executor

-- A plan that keeps the content of a page.
def Plan.keepPage (label : String) : Plan where
  steps :=
    [⟨label, "Fetcher", .ofList [("url", .str "http://[::]")]⟩,
     ⟨label, "Store", .ofList [("action", .str "write"), ("key", .str "page"),
       ("value", .obj [("from", .ofNat 0), ("field", .str "content")])]⟩]
  valid := by rfl

-- A network that gives one reply to everything.
def Network.steady (reply : Reply) (next : ν → ν) : Network ν := ⟨fun _ _ net => (reply, next net)⟩

-- The second of two runs, and the same plan with other labels on another context, over a network
-- that counts.
theorem Executor.session_isolated_keepPage :
    ∃ outcome before reached,
      ((builtin {} (Network.steady (.answer 200 1 [107]) id) .plain).session
        [(Token.never, Plan.keepPage "a"), (Token.never, Plan.keepPage "a")] (.ofGoal "")
        ⟨.empty, ()⟩).1[1]? = some outcome ∧
      ((builtin {} (Network.steady (.answer 200 1 [107]) id) .plain).session
        [(Token.never, Plan.keepPage "a")] (.ofGoal "") ⟨.empty, ()⟩).2 = (before, reached) ∧
      outcome.result =
        ((builtin {} (Network.steady (.answer 200 1 [107]) Nat.succ) .plain).execute Token.never
          (Plan.keepPage "b") ⟨⟨"b", .empty, .empty⟩, [.null], [.bool true]⟩
          ⟨reached.store, 0⟩).result := by
  refine ⟨_, _, _, rfl, rfl, ?_⟩
  exact ((session_isolated {} (Network.steady (.answer 200 1 [107]) id)
    (Network.steady (.answer 200 1 [107]) Nat.succ) .plain
    [(Token.never, Plan.keepPage "a"), (Token.never, Plan.keepPage "a")] (.ofGoal "")
    ⟨.empty, ()⟩).2.2.2 1 _ _ _ _ _ rfl rfl rfl Token.never (Plan.keepPage "b")
    ⟨⟨"b", .empty, .empty⟩, [.null], [.bool true]⟩ ⟨_, 0⟩ rfl rfl
    fun _ _ _ _ _ _ _ _ _ => ⟨rfl, fun _ _ _ => rfl⟩).1

end Stepwise
