import Stepwise.Proofs.Run.Steps
import Stepwise.Proofs.Tool.Failure

namespace Stepwise

-- What a run with the built-in tools can fail with at a step that was checked.
inductive Foreseen (place : Nat) (s : Step) : RunError → Prop
  | cancelled : Foreseen place s (.cancelled place)
  | pointer {x : String × Json} {e : RunError} (harg : x ∈ s.args.entries)
    (h : PointerFailure place x.1 e) : Foreseen place s e
  | fetch {url : String} {e : ToolError} (hkind : s.kind? = some .fetch)
    (hurl : s.args.get? "url" = some (.str url)) (h : Fetch.Failure url e) :
    Foreseen place s (.toolFailed place Fetch.name e)
  | extract {members : List (String × Json)} {e : ToolError} (hkind : s.kind? = some .parse)
    (hschema : s.args.get? "schema" = some (.obj members)) (h : Extract.Failure members e) :
    Foreseen place s (.toolFailed place Extract.name e)
  | compute {e : ToolError} (hkind : s.kind? = some .compute) (h : Compute.Failure s e) :
    Foreseen place s (.toolFailed place Compute.name e)

section

variable {ν : Type} {settings : Settings} {network : Network ν} {wording : Extract.Wording}
  {token : Token (World ν)} {place : Nat} {s : Step} {context after : Context}
  {world left : World ν} {args : Args} {frame : Frame} {e : ToolError}

theorem foreseen_of_call (hchecked : Checked s) {tool : Tool (World ν)}
    (hresolve : (builtinRegistry settings network wording).resolve s.tool = .ok tool)
    (hargs : resolveArgs place s context.runTrace = .ok args)
    (hcall : tool.call args context world = (.error e, frame, left)) :
    Foreseen place s (.toolFailed place s.tool e) := by
  obtain ⟨kind, hkind⟩ := hchecked.exists_kind
  rw [resolve_builtinRegistry settings network wording hkind] at hresolve
  cases hresolve
  rw [Step.tool_eq_of_kind? hkind]
  have herror := congrArg Prod.fst hcall
  cases hchecked with
  | search hkind' hquery hlinks hk hallowed =>
    cases hkind.symm.trans hkind'
    obtain ⟨v, hv⟩ := Search.result_ok settings.searcher
      (get?_of_resolveArgs_literal hargs hquery rfl)
      (get?_of_resolveArgs_literal hargs hlinks (detect?_of_toInt64? hk)) hk hallowed
    cases hv.symm.trans herror
  | fetch hkind' hurl hparsed =>
    cases hkind.symm.trans hkind'
    exact .fetch hkind hurl
      (Fetch.failure_of_call (get?_of_resolveArgs_literal hargs hurl rfl) hparsed hcall)
  | parse hkind' hraw _ hschema hselectors =>
    cases hkind.symm.trans hkind'
    obtain ⟨raw, hraw', _⟩ := get?_of_resolveArgs hargs hraw
    obtain ⟨w, hw, hres⟩ := get?_of_resolveArgs hargs hschema
    unfold resolveArg at hres
    split at hres
    · cases hres
      exact .extract hkind hschema (Extract.failure_of_result context.runTrace hraw' hw hselectors herror)
    · cases hres
    · next p hp => exact absurd hp (detect?_of_selectors hselectors)
  | compute hkind' hname hop hinputs _ hparams hpredicate =>
    cases hkind.symm.trans hkind'
    exact .compute hkind
      (Compute.failure_of_result hargs hname hop hinputs hparams hpredicate herror)
  | store hkind' hname haction hkey =>
    cases hkind.symm.trans hkind'
    obtain ⟨v, hv⟩ := Keep.result_ok world.store (get?_of_resolveArgs_literal hargs hname rfl) haction
      (get?_of_resolveArgs_literal hargs hkey rfl)
    simp only [builtinTool, Keep.tool, hv] at hcall
    cases hcall

theorem foreseen_of_transition (hchecked : Checked s) {e : RunError} {calls : List Run.Call}
    (h : Run.Transition (builtinRegistry settings network wording) token place s context world
      (.error e) after left calls) : Foreseen place s e := by
  cases h with
  | cancelled _ => exact .cancelled
  | unknown _ hresolve =>
    obtain ⟨kind, hkind⟩ := hchecked.exists_kind
    rw [resolve_builtinRegistry settings network wording hkind] at hresolve
    cases hresolve
  | unresolved _ _ hargs =>
    obtain ⟨x, hx, hfailure⟩ := exists_of_resolveArgs_error hargs
    exact .pointer hx hfailure
  | failed _ hresolve hargs hcall => exact foreseen_of_call hchecked hresolve hargs hcall

end

theorem Foreseen.step_eq {place : Nat} {s : Step} {e : RunError} (h : Foreseen place s e) :
    e.step = place := by
  cases h with
  | pointer _ h => exact h.step_eq
  | _ => rfl

theorem Foreseen.ne_toolNotFound {place : Nat} {s : Step} {e : RunError} (h : Foreseen place s e)
    (n : Nat) (tool : String) : e ≠ .toolNotFound n tool := by
  rintro rfl
  cases h with
  | pointer _ h => cases h

-- Neither the search nor the store tool ever fails, and no tool misses an argument.
theorem Foreseen.of_toolFailed {place n : Nat} {s : Step} {tool : String} {e : ToolError}
    (h : Foreseen place s (.toolFailed n tool e)) :
    tool ≠ Search.name ∧ tool ≠ Keep.name ∧ ∀ name arg, e ≠ .missingArg name arg := by
  cases h with
  | pointer _ h => cases h
  | fetch _ _ h =>
    refine ⟨by decide, by decide, ?_⟩
    rintro name arg rfl
    cases h
  | extract _ _ h =>
    refine ⟨by decide, by decide, ?_⟩
    rintro name arg rfl
    cases h
  | compute _ h =>
    refine ⟨by decide, by decide, ?_⟩
    rintro name arg rfl
    cases h with
    | input h => cases h

theorem Foreseen.not_holdsPredicate {place n : Nat} {s : Step} {tool op : String}
    {fault : ComputeFault} (h : Foreseen place s (.toolFailed n tool (.compute op fault))) :
    ¬ s.HoldsPredicate := by
  cases h with
  | pointer _ h => cases h
  | fetch _ _ h => cases h
  | extract _ _ h => cases h
  | compute _ h =>
    cases h with
    | input h => cases h
    | operation _ hpredicate => exact hpredicate

-- What validation lets pass is what a run can cope with: whatever the results, the store, the
-- network, the token and the wording, only these failures are left, each at a step of the plan.
theorem Executor.failure_foreseen {ν : Type} (settings : Settings) (network : Network ν)
    (wording : Extract.Wording) (token : Token (World ν)) (plan : Plan) (context : Context)
    (world : World ν) {failure : Failure}
    (h : ((Executor.builtin settings network wording).execute token plan context world).result =
      .error failure) :
    ∃ s, plan.steps[failure.error.step]? = some s ∧
      Foreseen failure.error.step s failure.error ∧
      (∀ n name, failure.error ≠ .toolNotFound n name) ∧
      (∀ n tool e, failure.error = .toolFailed n tool e →
        tool ≠ Search.name ∧ tool ≠ Keep.name ∧ ∀ name arg, e ≠ .missingArg name arg) ∧
      (s.HoldsPredicate → ∀ n tool op fault,
        failure.error ≠ .toolFailed n tool (.compute op fault)) := by
  cases hrun : Run.steps (builtin settings network wording).registry token 0 plan.steps
    context.beginRun world with
  | mk result rest =>
  obtain ⟨after, left⟩ := rest
  cases result with
  | ok =>
    rw [execute_of_steps_ok hrun] at h
    cases h
  | error stop =>
    obtain ⟨e, state⟩ := stop
    rw [execute_of_steps_error hrun] at h
    cases h
    obtain ⟨done, s, rest, before, reached, hplan, _, hdone, hstop⟩ := Run.exists_of_steps_error hrun
    obtain ⟨calls, htransition⟩ := Run.transition_of_step hstop
    rw [Nat.zero_add] at htransition
    have hmem : s ∈ plan.steps := by rw [hplan]; simp
    have hforeseen := foreseen_of_transition (Plan.checked_of_mem hmem) htransition
    have hstep : e.step = done.length := hforeseen.step_eq
    refine ⟨s, ?_, ?_, hforeseen.ne_toolNotFound, ?_, ?_⟩
    · simp [hplan, hstep]
    · exact hstep ▸ hforeseen
    · rintro n tool cause rfl
      exact hforeseen.of_toolFailed
    · rintro hholds n tool op fault rfl
      exact hforeseen.not_holdsPredicate hholds

-- A filter whose parameters point to what a write gives, which is no object.
def Plan.filterByWritten : Plan where
  steps :=
    [⟨"keep", "Store", .ofList [("action", .str "write"), ("key", .str "k"), ("value", .str "v")]⟩,
     ⟨"pick", "Compute", .ofList [("op", .str "filter"),
       ("inputs", .arr [.obj [("from", .ofNat 0), ("field", .str "")]]),
       ("params", .obj [("from", .ofNat 0), ("field", .str "")])]⟩]
  valid := by decide

theorem Executor.failure_foreseen_filterByWritten :
    ∃ failure, ((Executor.builtin {} (Network.closed (ν := Unit)) .plain).execute Token.never
        Plan.filterByWritten (.ofGoal "") ⟨.empty, ()⟩).result = .error failure ∧
      ∃ s, Plan.filterByWritten.steps[failure.error.step]? = some s ∧
        Foreseen failure.error.step s failure.error := by
  refine ⟨⟨.toolFailed 1 Compute.name (.invalidArg Compute.name "params" .notObject), .failed 1,
    [.bool true]⟩, rfl, ?_⟩
  obtain ⟨s, hs, hforeseen, _⟩ := Executor.failure_foreseen {} Network.closed .plain
    Token.never Plan.filterByWritten (.ofGoal "") ⟨.empty, ()⟩ rfl
  exact ⟨s, hs, hforeseen⟩

end Stepwise
