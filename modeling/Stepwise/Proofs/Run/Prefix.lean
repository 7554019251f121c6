import Stepwise.Proofs.Plan.Validation
import Stepwise.Proofs.Run.Isolation
import Stepwise.Proofs.Run.Stop
import Stepwise.Proofs.Tool.Fetch

namespace Stepwise

namespace Run

section

variable {σ : Type} {registry : Registry (Tool σ)} {token : Token σ} {place : Nat}
  {context after : Context} {world left : σ}

theorem Transition.never_of_ok {s : Step} {calls : List Call}
    (h : Transition registry token place s context world (.ok ()) after left calls) :
    Transition registry Token.never place s context world (.ok ()) after left calls := by
  cases h with
  | completed _ hresolve hargs hcall => exact .completed rfl hresolve hargs hcall

-- Steps that complete under some token complete alike under the one that never stops a run.
theorem steps_never_of_ok {ss : List Step}
    (h : steps registry token place ss context world = (.ok (), after, left)) :
    steps registry Token.never place ss context world = (.ok (), after, left) := by
  induction ss generalizing place context world with
  | nil =>
    cases h
    rfl
  | cons s rest ih =>
    simp only [steps] at h
    split at h
    · cases h
    · next hstep =>
      obtain ⟨calls, htransition⟩ := transition_of_step hstep
      rw [steps_cons_of_ok htransition.never_of_ok.step_eq]
      exact ih h

end

-- A step that fails, in whatever way, leaves the store as it was.
theorem Transition.store_eq_of_error {ν : Type} {settings : Settings} {network : Network ν}
    {wording : Extract.Wording}
    {token : Token (World ν)} {place : Nat} {s : Step} {context after : Context}
    {world left : World ν} {e : RunError} {calls : List Call}
    (h : Transition (builtinRegistry settings network wording) token place s context world (.error e)
      after left calls) : left.store = world.store := by
  cases h with
  | cancelled _ => rfl
  | unknown _ _ => rfl
  | unresolved _ _ _ => rfl
  | failed _ hresolve _ hcall =>
    obtain ⟨kind, rfl⟩ := exists_kind_of_resolve settings network wording hresolve
    exact store_of_call_error kind hcall

end Run

-- A network whose replies depend on the URL alone, whatever its state.
def Network.Answers {ν : Type} (network : Network ν) (reply : String → Reply) : Prop :=
  ∀ timeoutSecs url net, (network.get timeoutSecs url net).1 = reply url

namespace Executor

variable {ν μ : Type} {settings : Settings} {network : Network ν} {network' : Network μ}
  {wording : Extract.Wording}
  {token : Token (World ν)} {plan : Plan} {context : Context} {world : World ν} {world' : World μ}

-- The context that a run leaves is known from its results.
theorem context_execute_eq :
    ((builtin settings network wording).execute token plan context world).context =
      ⟨context.frame, context.trace,
        ((builtin settings network wording).execute token plan context world).results⟩ := by
  have hextends : context.Extends
      ((builtin settings network wording).execute token plan context world).context :=
    extends_execute
  have hearlier : ((builtin settings network wording).execute token plan context
      world).context.earlier = context.trace := by
    rw [context_execute]
    exact Run.earlier_of_steps rfl
  rw [results_execute, ← hextends.frame, ← hearlier]
  rfl

-- Without a token that stops them, two runs over networks that give the same replies are the same.
theorem execute_of_answers (plan : Plan) (context : Context) {reply : String → Reply}
    (hreply : network.Answers reply) (hreply' : network'.Answers reply)
    (hstore : world.store = world'.store) :
    ((builtin settings network wording).execute Token.never plan context world).result =
        ((builtin settings network' wording).execute Token.never plan context world').result ∧
      ((builtin settings network wording).execute Token.never plan context world).world.store =
        ((builtin settings network' wording).execute Token.never plan context world').world.store :=
    by
  refine execute_of_sameInputs rfl hstore fun _ _ _ _ _ _ _ _ _ => ⟨rfl, fun url _ _ => ?_⟩
  rw [hreply, hreply']

-- A run that stops leaves what the run of the steps before it leaves.
theorem execute_take_of_failsAt {failure : Failure} {s : Step} {before : Context}
    {reached : World ν} {calls : List Run.Call}
    (h : FailsAt (builtin settings network wording) token plan context world failure s before reached
      calls) :
    (builtin settings network wording).execute Token.never (plan.take failure.error.step) context
        world = ⟨.ok failure.trace, before, reached⟩ := by
  rw [h.trace]
  exact execute_of_steps_ok (Run.steps_never_of_ok h.done)

-- The first steps of a plan are a plan. Where a run stops at a step, for whatever reason, the plan of
-- the steps before it, never cancelled, completes from the same context and the same store, and
-- leaves the same context and the same store.
theorem execute_take_of_error {ν μ : Type} (settings : Settings) (network : Network ν)
    (network' : Network μ) (wording : Extract.Wording) (reply : String → Reply)
    (token : Token (World ν)) (plan : Plan) (context : Context) (world : World ν)
    (world' : World μ) (hreply : network.Answers reply) (hreply' : network'.Answers reply)
    (hstore : world.store = world'.store) (k : Nat) :
    Plan.ofSteps (plan.steps.take k) = .ok (plan.take k) ∧
    ∀ failure, ((builtin settings network wording).execute token plan context world).result =
        .error failure → failure.error.step = k →
      ((builtin settings network' wording).execute Token.never (plan.take k) context
          world').result = .ok failure.trace ∧
        ((builtin settings network' wording).execute Token.never (plan.take k) context
            world').context =
          ((builtin settings network wording).execute token plan context world).context ∧
        ((builtin settings network' wording).execute Token.never (plan.take k) context
            world').world.store =
          ((builtin settings network wording).execute token plan context world).world.store := by
  refine ⟨Plan.ofSteps_steps (plan.take k), ?_⟩
  rintro failure hfailure rfl
  obtain ⟨s, before, reached, calls, hfails⟩ := exists_failsAt hfailure
  have hfirst := execute_take_of_failsAt hfails
  obtain ⟨hresult, hleft⟩ :=
    execute_of_answers (plan.take failure.error.step) context hreply hreply' hstore
  rw [hfirst] at hresult hleft
  have hresults : ((builtin settings network' wording).execute Token.never
      (plan.take failure.error.step) context world').results = failure.trace := by
    rw [Outcome.results, ← hresult]
  have hstopped : ((builtin settings network wording).execute token plan context world).results =
      failure.trace := by
    rw [Outcome.results, hfailure]
  refine ⟨hresult.symm, ?_, ?_⟩
  · rw [context_execute_eq, context_execute_eq, hresults, hstopped]
  · rw [← hleft, hfails.transition.store_eq_of_error]

end Executor

-- A plan that keeps a word and then the content of a page.
def Plan.keepWordAndPage : Plan where
  steps :=
    [⟨"word", "Store", .ofList [("action", .str "write"), ("key", .str "word"),
       ("value", .str "ape")]⟩,
     ⟨"fetch", "Fetcher", .ofList [("url", .str "http://[::]")]⟩,
     ⟨"page", "Store", .ofList [("action", .str "write"), ("key", .str "page"),
       ("value", (Pointer.mk 1 "content").toJson)]⟩]
  valid := by rfl

-- A run stopped between the fetch and the write of the page, and the plan of the first two steps over
-- another network with the same replies: it gives their results and leaves the word kept.
theorem Executor.execute_take_of_error_keepWordAndPage :
    ∃ failure, ∃ prefixed : Outcome (World Nat),
      ((builtin {} (Network.steady (.answer 200 1 [107]) id) .plain).execute
        (fun place _ => place == 2) Plan.keepWordAndPage (.ofGoal "") ⟨.empty, ()⟩).result = .error failure ∧
      failure.error.step = 2 ∧
      (builtin {} (Network.steady (.answer 200 1 [107]) Nat.succ) .plain).execute Token.never
        (Plan.keepWordAndPage.take 2) (.ofGoal "") ⟨.empty, 0⟩ = prefixed ∧
      prefixed.result = .ok [.bool true, Fetch.page "k" 200 "http://[::]"] ∧
      prefixed.context.runTrace = [.bool true, Fetch.page "k" 200 "http://[::]"] ∧
      prefixed.context.trace = [.bool true, Fetch.page "k" 200 "http://[::]"] ∧
      prefixed.world.store.entries = [("word", .str "ape")] := by
  have hcontent : Fetch.content 262144 [107] = "k" :=
    Fetch.content_encode_of_le "k" (by decide)
  obtain ⟨hresult, hcontext, hstore⟩ :=
    (execute_take_of_error {} (Network.steady (.answer 200 1 [107]) id)
      (Network.steady (.answer 200 1 [107]) Nat.succ) .plain (fun _ => .answer 200 1 [107])
      (fun place _ => place == 2) Plan.keepWordAndPage (.ofGoal "") ⟨.empty, ()⟩ ⟨.empty, 0⟩
      (fun _ _ _ => rfl) (fun _ _ _ => rfl) rfl 2).2 _ rfl rfl
  rw [← hcontent]
  refine ⟨_, _, rfl, rfl, rfl, ?_, ?_, ?_, ?_⟩
  · rw [hresult]
    rfl
  · rw [hcontext]
    rfl
  · rw [hcontext]
    rfl
  · rw [hstore]
    rfl

end Stepwise
