import Stepwise.Proofs.Run.Prefix

namespace Stepwise

variable {ν : Type} {settings : Settings} {network : Network ν} {wording : Extract.Wording}
  {reply : String → Reply} {args : Args} {results : List Json} {store after : Store}
  {kind : StepKind} {v : Json} {context : Context} {world : World ν}

-- What a network has for each URL, as things stand in a world.
def Network.replies (settings : Settings) (network : Network ν) (world : World ν) :
    String → Reply :=
  fun url => (network.get settings.fetcher.timeoutSecs url world.net).1

theorem Network.Answers.replies_eq (h : network.Answers reply) :
    network.replies settings world = reply := by
  funext url
  exact h _ _ _

-- What a tool gives and leaves in the store where it succeeds. Of its surroundings it sees its
-- arguments, the results so far, the store and the replies, and nothing else.
inductive Performs (settings : Settings) (wording : Extract.Wording) (reply : String → Reply)
    (args : Args) (results : List Json) (store : Store) : StepKind → Json → Store → Prop
  | search {v : Json} (h : Search.result settings.searcher args = .ok v) :
    Performs settings wording reply args results store .search v store
  | fetch {url : String} {v : Json} (hurl : args.requireText "url" Fetch.name = .ok url)
    (hcheck : Fetch.checkUrl url = .ok ())
    (hread : Fetch.read settings.fetcher.maxResponseBytes url (reply url) = .ok v) :
    Performs settings wording reply args results store .fetch v store
  | parse {v : Json} (h : Extract.result wording args results = .ok v) :
    Performs settings wording reply args results store .parse v store
  | compute {v : Json} (h : Compute.result args results = .ok v) :
    Performs settings wording reply args results store .compute v store
  | store {v : Json} {after : Store} (h : Keep.result args store = .ok (v, after)) :
    Performs settings wording reply args results store .store v after

theorem performs_of_call {frame : Frame} {left : World ν}
    (h : (builtinTool settings network wording kind).call args context world =
      (.ok v, frame, left)) :
    Performs settings wording (network.replies settings world) args context.runTrace world.store kind
      v left.store := by
  cases kind with
  | search =>
    cases congrArg (·.2.2) h
    exact .search (congrArg Prod.fst h)
  | fetch =>
    simp only [builtinTool, Fetch.tool] at h
    split at h
    · cases h
    · next url hurl =>
      split at h
      · cases h
      · next hcheck =>
        cases congrArg (·.2.2) h
        exact .fetch hurl hcheck (congrArg Prod.fst h)
  | parse =>
    cases congrArg (·.2.2) h
    exact .parse (congrArg Prod.fst h)
  | compute =>
    cases congrArg (·.2.2) h
    exact .compute (congrArg Prod.fst h)
  | store =>
    simp only [builtinTool, Keep.tool] at h
    split at h
    · cases h
    · next hresult =>
      cases h
      exact .store hresult

theorem exists_call_of_performs
    (h : Performs settings wording (network.replies settings world) args context.runTrace
      world.store kind v after) :
    ∃ frame left, (builtinTool settings network wording kind).call args context world =
        (.ok v, frame, left) ∧ left.store = after := by
  cases h with
  | search h => exact ⟨context.frame, world, by rw [← h]; rfl, rfl⟩
  | @fetch url _ hurl hcheck hread =>
    refine ⟨context.frame,
      { world with net := (network.get settings.fetcher.timeoutSecs url world.net).2 }, ?_, rfl⟩
    simp only [builtinTool, Fetch.tool, hurl, hcheck]
    rw [← hread]
    rfl
  | parse h => exact ⟨context.frame, world, by rw [← h]; rfl, rfl⟩
  | compute h => exact ⟨context.frame, world, by rw [← h]; rfl, rfl⟩
  | store h =>
    refine ⟨context.frame, { world with store := after }, ?_, rfl⟩
    simp only [builtinTool, Keep.tool, h]

-- A step that completes: its arguments have values, and its tool succeeds on them.
inductive Completes (settings : Settings) (wording : Extract.Wording) (reply : String → Reply)
    (place : Nat) (s : Step) (results : List Json) (store : Store) (v : Json) (after : Store) : Prop
  | intro {kind : StepKind} {args : Args} (hkind : s.kind? = some kind)
    (hargs : resolveArgs place s results = .ok args)
    (h : Performs settings wording reply args results store kind v after)

-- Steps that complete one after another, from some results and some store to others.
inductive Runs (settings : Settings) (wording : Extract.Wording) (reply : String → Reply) :
    List Json → Store → List Step → List Json → Store → Prop
  | nil {results : List Json} {store : Store} :
    Runs settings wording reply results store [] results store
  | cons {s : Step} {rest : List Step} {results results' : List Json} {store mid after : Store}
    {v : Json} (hfirst : Completes settings wording reply results.length s results store v mid)
    (hrest : Runs settings wording reply (results ++ [v]) mid rest results' after) :
    Runs settings wording reply results store (s :: rest) results' after

theorem Runs.append {done rest : List Step} {results' results'' : List Json} {mid : Store}
    (h : Runs settings wording reply results store done results' mid)
    (h' : Runs settings wording reply results' mid rest results'' after) :
    Runs settings wording reply results store (done ++ rest) results'' after := by
  induction h with
  | nil => exact h'
  | cons hfirst _ ih => exact .cons hfirst (ih h')

theorem exists_of_runs_append {done rest : List Step} {results' : List Json}
    (h : Runs settings wording reply results store (done ++ rest) results' after) :
    ∃ mid between, Runs settings wording reply results store done mid between ∧
      Runs settings wording reply mid between rest results' after := by
  induction done generalizing results store with
  | nil => exact ⟨results, store, .nil, h⟩
  | cons s done ih =>
    cases h with
    | cons hfirst hrest =>
      obtain ⟨mid, between, hdone, hlast⟩ := ih hrest
      exact ⟨mid, between, .cons hfirst hdone, hlast⟩

theorem Runs.length_eq {ss : List Step} {results' : List Json}
    (h : Runs settings wording reply results store ss results' after) :
    results'.length = results.length + ss.length := by
  induction h with
  | nil => rfl
  | cons _ _ ih =>
    rw [List.length_append, List.length_singleton] at ih
    rw [ih, List.length_cons, Nat.add_right_comm, Nat.add_assoc]

theorem exists_kind?_of_resolve {s : Step} {tool : Tool (World ν)}
    (h : (builtinRegistry settings network wording).resolve s.tool = .ok tool) :
    ∃ kind, s.kind? = some kind ∧ tool = builtinTool settings network wording kind := by
  rw [Registry.resolve, get?_builtinRegistry] at h
  cases hkind : StepKind.ofToolName? s.tool with
  | none =>
    rw [hkind] at h
    cases h
  | some kind =>
    rw [hkind] at h
    cases h
    exact ⟨kind, hkind, rfl⟩

namespace Run

variable {token : Token (World ν)} {place : Nat} {s : Step} {ss : List Step} {next : Context}
  {left : World ν} {calls : List Call}

theorem Transition.completes
    (h : Transition (builtinRegistry settings network wording) token place s context world (.ok ())
      next left calls) :
    ∃ v, next.runTrace = context.runTrace ++ [v] ∧
      Completes settings wording (network.replies settings world) place s context.runTrace
        world.store v left.store := by
  cases h with
  | @completed _ args v _ _ _ hresolve hargs hcall =>
    obtain ⟨kind, hkind, rfl⟩ := exists_kind?_of_resolve hresolve
    exact ⟨v, rfl, .intro hkind hargs (performs_of_call hcall)⟩

theorem exists_transition_of_completes
    (h : Completes settings wording (network.replies settings world) place s context.runTrace
      world.store v after) :
    ∃ next left calls,
      Transition (builtinRegistry settings network wording) Token.never place s context world (.ok ())
        next left calls ∧
      next.runTrace = context.runTrace ++ [v] ∧ left.store = after := by
  cases h with
  | @intro kind args hkind hargs h =>
    obtain ⟨frame, left, hcall, hleft⟩ := exists_call_of_performs h
    exact ⟨_, left, _,
      .completed rfl (resolve_builtinRegistry settings network wording hkind) hargs hcall, rfl,
      hleft⟩

theorem runs_of_steps (hreply : network.Answers reply) (hplace : context.runTrace.length = place)
    (h : steps (builtinRegistry settings network wording) token place ss context world =
      (.ok (), next, left)) :
    Runs settings wording reply context.runTrace world.store ss next.runTrace left.store := by
  induction ss generalizing place context world with
  | nil =>
    cases h
    exact .nil
  | cons s rest ih =>
    simp only [steps] at h
    split at h
    · cases h
    · next hstep =>
      obtain ⟨calls, htransition⟩ := transition_of_step hstep
      obtain ⟨v, htrace, hfirst⟩ := htransition.completes
      rw [hreply.replies_eq, ← hplace] at hfirst
      have hrest := ih (htransition.length_runTrace_of_ok.trans (by rw [hplace])) h
      rw [htrace] at hrest
      exact .cons hfirst hrest

theorem exists_steps_of_runs (hreply : network.Answers reply)
    (hplace : context.runTrace.length = place)
    (h : Runs settings wording reply context.runTrace world.store ss results after) :
    ∃ next left,
      steps (builtinRegistry settings network wording) Token.never place ss context world =
          (.ok (), next, left) ∧
        next.runTrace = results ∧ left.store = after := by
  induction ss generalizing place context world with
  | nil =>
    cases h
    exact ⟨context, world, rfl, rfl, rfl⟩
  | cons s rest ih =>
    cases h with
    | @cons _ _ _ _ _ mid _ v hfirst hrest =>
      have hreplies : network.replies settings world = reply := hreply.replies_eq
      rw [← hreplies, hplace] at hfirst
      obtain ⟨next, left, calls, htransition, htrace, rfl⟩ := exists_transition_of_completes hfirst
      rw [← htrace] at hrest
      rw [steps_cons_of_ok htransition.step_eq]
      exact ih (htransition.length_runTrace_of_ok.trans (by rw [hplace])) hrest

end Run

namespace Executor

variable {token : Token (World ν)} {plan : Plan}

-- Over a network that goes by the URL alone, a run that completes is known from its store.
theorem runs_of_execute (hreply : network.Answers reply)
    (h : ((builtin settings network wording).execute token plan context world).result =
      .ok results) :
    Runs settings wording reply [] world.store plan.steps results
      ((builtin settings network wording).execute token plan context world).world.store := by
  cases hrun : Run.steps (builtin settings network wording).registry token 0 plan.steps
    context.beginRun world with
  | mk result rest =>
  obtain ⟨next, left⟩ := rest
  cases result with
  | error stop =>
    rw [execute_of_steps_error hrun] at h
    cases h
  | ok =>
    rw [execute_of_steps_ok hrun] at h ⊢
    cases h
    have hplace : context.beginRun.runTrace.length = 0 := rfl
    exact Run.runs_of_steps hreply hplace hrun

theorem execute_of_runs (hreply : network.Answers reply)
    (h : Runs settings wording reply [] world.store plan.steps results after) :
    ((builtin settings network wording).execute Token.never plan context world).result =
        .ok results ∧
      ((builtin settings network wording).execute Token.never plan context world).world.store =
        after := by
  have hplace : context.beginRun.runTrace.length = 0 := rfl
  obtain ⟨next, left, hrun, rfl, rfl⟩ := Run.exists_steps_of_runs hreply hplace h
  rw [execute_of_steps_ok hrun]
  exact ⟨rfl, rfl⟩

end Executor

end Stepwise
