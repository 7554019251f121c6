import Stepwise.Plan.Template
import Stepwise.Proofs.Json
import Stepwise.Proofs.Path.Selector
import Stepwise.Proofs.Plan.Validation
import Stepwise.Proofs.Run.Completion
import Stepwise.Proofs.Run.Failure
import Stepwise.Proofs.Tool.Fetch

namespace Stepwise

variable {ν : Type} {settings : Settings} {network : Network ν} {wording : Extract.Wording}
  {token : Token (World ν)} {place : Nat} {s : Step} {kind : StepKind} {args : Args}
  {context next : Context} {world left : World ν} {goal : String}

-- A step whose arguments have values is cancelled, or its tool is called and fails, or it completes.
theorem Run.Transition.of_resolveArgs {result : Except RunError Unit} {calls : List Run.Call}
    (hkind : s.kind? = some kind) (hargs : resolveArgs place s context.runTrace = .ok args)
    (h : Run.Transition (builtinRegistry settings network wording) token place s context world result
      next left calls) :
    (token place world = true ∧ result = .error (.cancelled place)) ∨
      token place world = false ∧
        ((∃ e frame, (builtinTool settings network wording kind).call args context world =
            (.error e, frame, left) ∧ result = .error (.toolFailed place s.tool e)) ∨
          ∃ v frame, (builtinTool settings network wording kind).call args context world =
            (.ok v, frame, left) ∧ result = .ok () ∧ next.runTrace = context.runTrace ++ [v]) := by
  have hresolves {tool : Tool (World ν)}
      (hresolve : (builtinRegistry settings network wording).resolve s.tool = .ok tool) :
      tool = builtinTool settings network wording kind := by
    rw [resolve_builtinRegistry settings network wording hkind] at hresolve
    cases hresolve
    rfl
  cases h with
  | cancelled htoken => exact .inl ⟨htoken, rfl⟩
  | unknown _ hresolve =>
    rw [resolve_builtinRegistry settings network wording hkind] at hresolve
    cases hresolve
  | unresolved _ _ hfailed =>
    rw [hargs] at hfailed
    cases hfailed
  | failed htoken hresolve hargs' hcall =>
    cases hargs.symm.trans hargs'
    cases hresolves hresolve
    exact .inr ⟨htoken, .inl ⟨_, _, hcall, rfl⟩⟩
  | completed htoken hresolve hargs' hcall =>
    cases hargs.symm.trans hargs'
    cases hresolves hresolve
    exact .inr ⟨htoken, .inr ⟨_, _, hcall, rfl, rfl⟩⟩

namespace Search

-- The links that a search gives.
def links (settings : SearchSettings) (query : String) (count : Nat) : List Json :=
  (List.range count).map
    (link (String.ofList (Text.dropEndWhile (· == '/') settings.baseUrl.toList)) query)

theorem result_eq (settings : SearchSettings) {args : Args} {query : String} {count : Nat}
    (hquery : args.get? "query" = some (.str query))
    (hcount : args.get? "top_k" = some (.ofNat count))
    (hint : (Json.ofNat count).toInt64? = some (count : Int)) (hallowed : allowedLinks count = true) :
    result settings args = .ok (.arr (links settings query count)) := by
  have hrequire : args.require "top_k" name = .ok (.ofNat count) := by rw [Args.require, hcount]
  refine bind_eq_ok_iff.2 ⟨query, Args.requireText_of_get? hquery name,
    bind_eq_ok_iff.2 ⟨_, hrequire, ?_⟩⟩
  rw [hint]
  dsimp only
  rw [if_pos hallowed, Int.toNat_natCast]
  rfl

theorem length_links (settings : SearchSettings) (query : String) (count : Nat) :
    (links settings query count).length = count := by simp [links]

theorem mem_links {settings : SearchSettings} {query : String} {count : Nat} {v : Json}
    (h : v ∈ links settings query count) :
    ∃ url, v = .obj [("query", .str query), ("url", .str url)] := by
  obtain ⟨i, -, rfl⟩ := List.mem_map.1 h
  exact ⟨_, rfl⟩

end Search

namespace Extract

-- The schema of the fixed plan: the heading of a page.
def headingSchema : List (String × Json) := [("title", .str "css:h1")]

-- Its selector is one that can be read, so looking for the heading never fails.
theorem exists_result_heading {content : String} (trace : List Json)
    (hraw : args.get? "raw" = some (.str content))
    (hschema : args.get? "schema" = some (.obj headingSchema)) :
    ∃ title : Option String, result wording args trace = .ok (.obj [("title", orNull title)]) := by
  have hname : Path.WordName "h1" := ⟨by decide, by decide⟩
  obtain ⟨s, hs⟩ : ∃ s, Selector.read? "h1".toList = some s := ⟨_, Path.read?_name hname⟩
  have hread : readSelector wording "h1".toList = .ok s := by rw [readSelector, hs]
  have hsplit : SelectorKind.split? "css:h1".toList = some (.css, "h1".toList) := rfl
  have hfind (page : Markup.Document) :
      find wording page content "css:h1" = .ok (orNull ((select? page s).map elementText)) := by
    simp only [find, hsplit, hread]
    rfl
  refine ⟨(select? (Markup.Document.read content) s).map elementText, ?_⟩
  refine bind_eq_ok_iff.2 ⟨content, Args.requireText_of_get? hraw name,
    bind_eq_ok_iff.2 ⟨headingSchema, Args.requireObject_of_get? hschema name, ?_⟩⟩
  refine bind_eq_ok_iff.2 ⟨[("title", _)], ?_, rfl⟩
  rw [headingSchema, findAll, hfind]
  rfl

end Extract

namespace Template

-- The three steps of the fixed plan.
def search (settings : PlannerSettings) (goal : String) : Step :=
  ⟨"search", "Searcher", .ofList [("query", .str goal), ("top_k", .ofNat settings.topK)]⟩

def fetch (settings : PlannerSettings) : Step :=
  ⟨"fetch", "Fetcher", .ofList [("url", .str settings.fetchUrl)]⟩

def parse : Step :=
  ⟨"parse", "Parser", .ofList
    [("raw", (Pointer.mk 1 "content").toJson), ("schema", .obj Extract.headingSchema)]⟩

theorem steps_eq (settings : PlannerSettings) (goal : String) :
    templateSteps settings goal = [search settings goal, fetch settings, parse] := rfl

theorem entries_search {settings : PlannerSettings} :
    (search settings goal).args.entries =
      [("query", .str goal), ("top_k", .ofNat settings.topK)] :=
  Dict.entries_ofList_pair (by decide) _ _

theorem entries_parse {raw : Json} :
    (Dict.ofList [("raw", raw), ("schema", .obj Extract.headingSchema)]).entries =
      [("raw", raw), ("schema", .obj Extract.headingSchema)] :=
  Dict.entries_ofList_pair (by decide) _ _

theorem get?_query {settings : PlannerSettings} (goal : String) :
    (search settings goal).args.get? "query" = some (.str goal) := by
  rw [Dict.get?, entries_search]
  rfl

theorem get?_count {settings : PlannerSettings} :
    (search settings goal).args.get? "top_k" = some (.ofNat settings.topK) := by
  rw [Dict.get?, entries_search]
  rfl

theorem get?_raw (raw : Json) :
    (Dict.ofList [("raw", raw), ("schema", .obj Extract.headingSchema)]).get? "raw" = some raw := by
  rw [Dict.get?, entries_parse]
  rfl

theorem get?_schema {raw : Json} :
    (Dict.ofList [("raw", raw), ("schema", .obj Extract.headingSchema)]).get? "schema" =
      some (.obj Extract.headingSchema) := by
  rw [Dict.get?, entries_parse]
  rfl

-- The search step asks for an allowed number of links, and the page is at a well-formed address.
def Allowed (settings : PlannerSettings) : Prop :=
  1 ≤ settings.topK ∧ settings.topK ≤ 20 ∧ ∃ parsed, Url.parse settings.fetchUrl = .ok parsed

theorem allowedLinks_iff {n : Nat} : allowedLinks n = true ↔ 1 ≤ n ∧ n ≤ 20 := by
  simp only [allowedLinks, Bool.and_eq_true, decide_eq_true_eq]
  omega

theorem toInt64?_of_allowed {n : Nat} (h : n ≤ 20) : (Json.ofNat n).toInt64? = some (n : Int) :=
  Json.toInt64?_eq_some_iff.2 ⟨rfl, by omega⟩

theorem checked_search_iff {settings : PlannerSettings} :
    Checked (search settings goal) ↔ 1 ≤ settings.topK ∧ settings.topK ≤ 20 := by
  constructor
  · intro h
    cases h with
    | search _ _ hlinks hk hallowed =>
      cases get?_count.symm.trans hlinks
      obtain ⟨heq, -⟩ := Json.toInt64?_eq_some_iff.1 hk
      cases heq
      exact allowedLinks_iff.1 hallowed
    | fetch hkind | parse hkind | compute hkind | store hkind => cases hkind
  · intro h
    exact .search rfl (get?_query goal) get?_count (toInt64?_of_allowed h.2) (allowedLinks_iff.2 h)

theorem checked_fetch_iff {settings : PlannerSettings} :
    Checked (fetch settings) ↔ ∃ parsed, Url.parse settings.fetchUrl = .ok parsed := by
  constructor
  · intro h
    cases h with
    | fetch _ hurl hparsed =>
      cases hurl
      exact ⟨_, hparsed⟩
    | search hkind | parse hkind | compute hkind | store hkind => cases hkind
  · rintro ⟨parsed, hparsed⟩
    exact .fetch rfl rfl hparsed

theorem checked_parse : Checked parse := by
  refine .parse rfl (get?_raw _) rfl get?_schema ?_
  rw [Extract.headingSchema, List.forall_mem_singleton]
  exact ⟨"css:h1", rfl, rfl⟩

theorem exists_ofGoal_iff (settings : PlannerSettings) (goal : String) :
    (∃ plan, Plan.ofGoal settings goal = .ok plan) ↔ Allowed settings := by
  constructor
  · rintro ⟨plan, hplan⟩
    have hchecked (s : Step) (hs : s ∈ templateSteps settings goal) : Checked s := by
      rw [← Plan.steps_of_ofSteps hplan] at hs
      exact Plan.checked_of_mem hs
    have hsearch := checked_search_iff.1 (hchecked (search settings goal) (by simp [steps_eq]))
    have hfetch := checked_fetch_iff.1 (hchecked (fetch settings) (by simp [steps_eq]))
    exact ⟨hsearch.1, hsearch.2, hfetch⟩
  · rintro ⟨hlow, hhigh, hparsed⟩
    have hvalid : violations (templateSteps settings goal) = [] := by
      refine violationsFrom_eq_nil 0 fun s hs => ?_
      simp only [steps_eq, List.mem_cons, List.not_mem_nil, or_false] at hs
      rcases hs with rfl | rfl | rfl
      · exact checked_search_iff.2 ⟨hlow, hhigh⟩
      · exact checked_fetch_iff.2 hparsed
      · exact checked_parse
    exact ⟨_, Plan.ofSteps_of_valid hvalid⟩

theorem resolveArgs_search {settings : PlannerSettings} (trace : List Json) :
    resolveArgs place (search settings goal) trace = .ok (search settings goal).args := by
  refine resolveArgs_of_literal ?_
  rw [entries_search]
  simp [Pointer.detect?, Json.ofNat]

theorem resolveArgs_fetch {settings : PlannerSettings} (trace : List Json) :
    resolveArgs place (fetch settings) trace = .ok (fetch settings).args := rfl

-- The page's text takes the place of the pointer to it.
theorem resolveArgs_parse (place : Nat) (found : Json) (content url : String) (status : Nat) :
    resolveArgs place parse [found, Fetch.page content status url] =
      .ok (.ofList [("raw", .str content), ("schema", .obj Extract.headingSchema)]) := by
  rw [resolveArgs, Dict.toList, parse, entries_parse]
  rfl

-- What the fetch of the plan's page gives where a run begins in a world.
def fetched (settings : Settings) (network : Network ν) (world : World ν) : Except ToolError Json :=
  match Fetch.checkUrl settings.planner.fetchUrl with
  | .error e => .error e
  | .ok () =>
    Fetch.read settings.fetcher.maxResponseBytes settings.planner.fetchUrl
      (network.replies settings world settings.planner.fetchUrl)

-- The world that the token sees before a step: until the fetch it is the one the run begins in.
def worldBefore (settings : Settings) (network : Network ν) (world : World ν) : Nat → World ν
  | 0 | 1 => world
  | _ =>
    { world with
      net := (network.get settings.fetcher.timeoutSecs settings.planner.fetchUrl world.net).2 }

-- What a run of the fixed plan can end with. The token decides whether it is cancelled, and the
-- network's reply whether the fetch fails.
inductive End (settings : Settings) (network : Network ν) (token : Token (World ν)) (goal : String)
    (world : World ν) : Except Failure (List Json) → Prop
  | completed {results : List Json} {content : String} {status : Nat} {title : Json}
    (htoken : ∀ step < 3, token step (worldBefore settings network world step) = false)
    (hcount : results.length = settings.planner.topK)
    (hresults : ∀ v ∈ results, ∃ url, v = .obj [("query", .str goal), ("url", .str url)])
    (hfetched : fetched settings network world =
      .ok (Fetch.page content status settings.planner.fetchUrl))
    (htitle : title = .null ∨ ∃ t, title = .str t) :
    End settings network token goal world
      (.ok [.arr results, Fetch.page content status settings.planner.fetchUrl,
        .obj [("title", title)]])
  | fetchFailed {e : ToolError} {trace : List Json}
    (htoken : ∀ step < 2, token step (worldBefore settings network world step) = false)
    (hfetched : fetched settings network world = .error e) (hlength : trace.length = 1)
    (h : Fetch.Failure settings.planner.fetchUrl e) :
    End settings network token goal world
      (.error ⟨.toolFailed 1 Fetch.name e, .failed 1, trace⟩)
  | cancelled {step : Nat} {trace : List Json}
    (hbefore : ∀ earlier < step, token earlier (worldBefore settings network world earlier) = false)
    (htoken : token step (worldBefore settings network world step) = true)
    (hfetched : step = 2 → ∃ v, fetched settings network world = .ok v)
    (hlength : trace.length = step) (hstep : step < 3) :
    End settings network token goal world (.error ⟨.cancelled step, .failed step, trace⟩)

-- Nothing else stops a run: it completes where the token is never set and the page is fetched.
theorem End.exists_ok {result : Except Failure (List Json)} {v : Json}
    (h : End settings network token goal world result)
    (htoken : ∀ step world, token step world = false)
    (hfetched : fetched settings network world = .ok v) :
    ∃ results title, result = .ok [.arr results, v, .obj [("title", title)]] ∧
      results.length = settings.planner.topK ∧ (title = .null ∨ ∃ t, title = .str t) := by
  cases h with
  | completed _ hcount _ hpage htitle =>
    cases hfetched.symm.trans hpage
    exact ⟨_, _, rfl, hcount, htitle⟩
  | fetchFailed _ hfailed => cases hfetched.symm.trans hfailed
  | cancelled _ hset => cases (htoken _ _).symm.trans hset

section

variable {result : Except RunError Unit} {calls : List Run.Call} {goal : String}

theorem search_transition (hallowed : Allowed settings.planner)
    (h : Run.Transition (builtinRegistry settings network wording) token 0
      (search settings.planner goal) context world result next left calls) :
    (token 0 world = true ∧ result = .error (.cancelled 0)) ∨
      token 0 world = false ∧ result = .ok () ∧ left = world ∧ next.runTrace =
        context.runTrace ++ [.arr (Search.links settings.searcher goal settings.planner.topK)] := by
  have hcall := Search.result_eq settings.searcher (get?_query goal) get?_count
    (toInt64?_of_allowed hallowed.2.1) (allowedLinks_iff.2 ⟨hallowed.1, hallowed.2.1⟩)
  rcases h.of_resolveArgs rfl (resolveArgs_search _) with
    hcancelled | ⟨htoken, ⟨e, frame, herror, -⟩ | ⟨v, frame, hok, hresult, htrace⟩⟩
  · exact .inl hcancelled
  · cases hcall.symm.trans (congrArg Prod.fst herror)
  · cases hcall.symm.trans (congrArg Prod.fst hok)
    exact .inr ⟨htoken, hresult, (congrArg (·.2.2) hok).symm, htrace⟩

theorem fetch_transition (hallowed : Allowed settings.planner)
    (h : Run.Transition (builtinRegistry settings network wording) token 1 (fetch settings.planner)
      context world result next left calls) :
    (token 1 world = true ∧ result = .error (.cancelled 1)) ∨
      token 1 world = false ∧
        ((∃ e, result = .error (.toolFailed 1 Fetch.name e) ∧
            fetched settings network world = .error e ∧
            Fetch.Failure settings.planner.fetchUrl e) ∨
          result = .ok () ∧ left = worldBefore settings network world 2 ∧
            ∃ content status, fetched settings network world =
                .ok (Fetch.page content status settings.planner.fetchUrl) ∧
              next.runTrace =
                context.runTrace ++ [Fetch.page content status settings.planner.fetchUrl]) := by
  obtain ⟨parsed, hparsed⟩ := hallowed.2.2
  have hurl : (fetch settings.planner).args.get? "url" = some (.str settings.planner.fetchUrl) := rfl
  have htransition := h.of_resolveArgs rfl (resolveArgs_fetch _)
  cases hcheck : Fetch.checkUrl settings.planner.fetchUrl with
  | error e' =>
    have hcall : (builtinTool settings network wording .fetch).call (fetch settings.planner).args
        context world = (.error e', context.frame, world) := Fetch.call_of_checkUrl_error hurl hcheck
    rcases htransition with
      hcancelled | ⟨htoken, ⟨e, frame, herror, hresult⟩ | ⟨v, frame, hok, -⟩⟩
    · exact .inl hcancelled
    · cases hcall.symm.trans herror
      refine .inr ⟨htoken, .inl ⟨_, hresult, ?_, Fetch.failure_of_call rfl hparsed herror⟩⟩
      rw [fetched, hcheck]
    · cases hcall.symm.trans hok
  | ok =>
    have hcall : (builtinTool settings network wording .fetch).call (fetch settings.planner).args
        context world = (fetched settings network world, context.frame,
          worldBefore settings network world 2) := by
      rw [fetched, hcheck]
      exact Fetch.call_of_checkUrl_ok hurl hcheck
    rcases htransition with
      hcancelled | ⟨htoken, ⟨e, frame, herror, hresult⟩ | ⟨v, frame, hok, hresult, htrace⟩⟩
    · exact .inl hcancelled
    · have hfetched := congrArg Prod.fst (hcall.symm.trans herror)
      exact .inr ⟨htoken, .inl ⟨e, hresult, hfetched, Fetch.failure_of_call rfl hparsed herror⟩⟩
    · have hfetched : fetched settings network world = .ok v :=
        congrArg Prod.fst (hcall.symm.trans hok)
      have hread := hfetched
      rw [fetched, hcheck] at hread
      obtain ⟨content, status, rfl⟩ := Fetch.exists_page_of_read hread
      have hleft := congrArg (·.2.2) (hok.symm.trans hcall)
      exact .inr ⟨htoken, .inr ⟨hresult, hleft, content, status, hfetched, htrace⟩⟩

theorem parse_transition {found : Json} {content url : String} {status : Nat}
    (hresults : context.runTrace = [found, Fetch.page content status url])
    (h : Run.Transition (builtinRegistry settings network wording) token 2 parse context world result
      next left calls) :
    (token 2 world = true ∧ result = .error (.cancelled 2)) ∨
      token 2 world = false ∧ result = .ok () ∧ ∃ title,
        (title = .null ∨ ∃ t, title = .str t) ∧
          next.runTrace = context.runTrace ++ [.obj [("title", title)]] := by
  have hargs := resolveArgs_parse 2 found content url status
  rw [← hresults] at hargs
  obtain ⟨title, htitle⟩ := Extract.exists_result_heading context.runTrace
    (get?_raw (.str content)) get?_schema
  rcases h.of_resolveArgs rfl hargs with
    hcancelled | ⟨htoken, ⟨e, frame, herror, -⟩ | ⟨v, frame, hok, hresult, htrace⟩⟩
  · exact .inl hcancelled
  · cases htitle.symm.trans (congrArg Prod.fst herror)
  · cases htitle.symm.trans (congrArg Prod.fst hok)
    refine .inr ⟨htoken, hresult, Extract.orNull title, ?_, htrace⟩
    cases title with
    | none => exact .inl rfl
    | some t => exact .inr ⟨t, rfl⟩

end

-- Each step hands on to the next one what that needs, so only the network and the token can stop a run.
theorem end_of_execute (hallowed : Allowed settings.planner) {plan : Plan}
    (hsteps : plan.steps = templateSteps settings.planner goal) (network : Network ν)
    (wording : Extract.Wording) (token : Token (World ν)) (context : Context) (world : World ν) :
    End settings network token goal world
      ((Executor.builtin settings network wording).execute token plan context world).result := by
  cases hrun : Run.steps (Executor.builtin settings network wording).registry token 0 plan.steps
    context.beginRun world with
  | mk result rest =>
  obtain ⟨after, left⟩ := rest
  have hstages := hrun
  rw [hsteps, steps_eq] at hstages
  rcases Run.transition_of_steps_cons hstages with
    ⟨e, calls, rfl, hsearch⟩ | ⟨searched, reached, calls, hsearch, hstages⟩
  · rcases search_transition hallowed hsearch with ⟨htoken, he⟩ | ⟨-, he, -⟩
    · cases he
      rw [Executor.execute_of_steps_error hrun]
      exact .cancelled (by simp) htoken (by simp) (congrArg List.length hsearch.runTrace_of_error)
        (by decide)
    · cases he
  obtain ⟨-, he⟩ | ⟨hfirst, -, hreached, hlinks⟩ := search_transition hallowed hsearch
  · cases he
  replace hlinks : searched.runTrace = [.arr (Search.links settings.searcher goal
    settings.planner.topK)] := hlinks
  have hbefore : ∀ step < 1, token step (worldBefore settings network world step) = false :=
    Nat.forall_lt_succ_right.2 ⟨by simp, hfirst⟩
  rw [hreached] at hstages
  rcases Run.transition_of_steps_cons hstages with
    ⟨e, calls, rfl, hfetch⟩ | ⟨fetched, reached, calls, hfetch, hstages⟩
  · have hlength : after.runTrace.length = 1 := by
      rw [hfetch.runTrace_of_error, hlinks]
      rfl
    rw [Executor.execute_of_steps_error hrun]
    rcases fetch_transition hallowed hfetch with
      ⟨htoken, he⟩ | ⟨hsecond, ⟨cause, he, hfailed, hcause⟩ | ⟨he, -⟩⟩
    · cases he
      exact .cancelled hbefore htoken (by simp) hlength (by decide)
    · cases he
      exact .fetchFailed (Nat.forall_lt_succ_right.2 ⟨hbefore, hsecond⟩) hfailed hlength hcause
    · cases he
  obtain ⟨-, he⟩ | ⟨hsecond, ⟨_, he, -⟩ | ⟨-, hreached, content, status, hfetched, hpage⟩⟩ :=
    fetch_transition hallowed hfetch
  · cases he
  · cases he
  rw [hlinks] at hpage
  replace hbefore : ∀ step < 2, token step (worldBefore settings network world step) = false :=
    Nat.forall_lt_succ_right.2 ⟨hbefore, hsecond⟩
  rw [hreached] at hstages
  rcases Run.transition_of_steps_cons hstages with
    ⟨e, calls, rfl, hparse⟩ | ⟨parsed, _, calls, hparse, hdone⟩
  · rcases parse_transition hpage hparse with ⟨htoken, he⟩ | ⟨-, he, -⟩
    · cases he
      rw [Executor.execute_of_steps_error hrun, hparse.runTrace_of_error, hpage]
      exact .cancelled hbefore htoken (fun _ => ⟨_, hfetched⟩) rfl (by decide)
    · cases he
  obtain ⟨-, he⟩ | ⟨hthird, -, title, htitle, htrace⟩ := parse_transition hpage hparse
  · cases he
  cases hdone
  rw [Executor.execute_of_steps_ok hrun, htrace, hpage]
  exact .completed (Nat.forall_lt_succ_right.2 ⟨hbefore, hthird⟩) (Search.length_links _ _ _)
    (fun v hv => Search.mem_links hv) hfetched htitle

end Template

-- The fixed plan is a plan exactly where the settings allow it, whatever the goal. Carried out with
-- the same settings it gives its three results, unless the fetch fails or the run is cancelled.
theorem Plan.ofGoal_carried_out (settings : Settings) (goal : String) :
    ((∃ plan, Plan.ofGoal settings.planner goal = .ok plan) ↔
      1 ≤ settings.planner.topK ∧ settings.planner.topK ≤ 20 ∧
        ∃ parsed, Url.parse settings.planner.fetchUrl = .ok parsed) ∧
    ∀ plan, Plan.ofGoal settings.planner goal = .ok plan →
      ∀ {ν : Type} (network : Network ν) (wording : Extract.Wording) (token : Token (World ν))
        (context : Context) (world : World ν),
        Template.End settings network token goal world
          ((Executor.builtin settings network wording).execute token plan context world).result := by
  refine ⟨Template.exists_ofGoal_iff settings.planner goal, ?_⟩
  intro plan hplan ν network wording token context world
  have hallowed := (Template.exists_ofGoal_iff settings.planner goal).1 ⟨plan, hplan⟩
  exact Template.end_of_execute hallowed (Plan.steps_of_ofSteps hplan) network wording token context
    world

-- A goal that reads like a selector, over a network that answers everyone alike.
def Settings.loopback : Settings where
  planner := { topK := 20, fetchUrl := "http://[::1]" }

theorem Plan.ofGoal_carried_out_loopback :
    ∃ plan results title, Plan.ofGoal Settings.loopback.planner "css:h1" = .ok plan ∧
      ((Executor.builtin Settings.loopback (Network.steady (.answer 200 1 [107]) id) .plain).execute
        Token.never plan (.ofGoal "") ⟨.empty, ()⟩).result =
        .ok [.arr results, Fetch.page "k" 200 "http://[::1]", .obj [("title", title)]] ∧
      results.length = 20 ∧ (title = .null ∨ ∃ t, title = .str t) := by
  have hallowed : 1 ≤ Settings.loopback.planner.topK ∧ Settings.loopback.planner.topK ≤ 20 ∧
      ∃ parsed, Url.parse Settings.loopback.planner.fetchUrl = .ok parsed :=
    ⟨by decide, by decide, _, rfl⟩
  obtain ⟨plan, hplan⟩ := (Plan.ofGoal_carried_out Settings.loopback "css:h1").1.2 hallowed
  have hend := (Plan.ofGoal_carried_out Settings.loopback "css:h1").2 plan hplan
    (Network.steady (.answer 200 1 [107]) id) .plain Token.never (.ofGoal "") ⟨.empty, ()⟩
  have hcontent : Fetch.content 262144 [107] = "k" := Fetch.content_encode_of_le "k" (by decide)
  have hfetched : Template.fetched Settings.loopback (Network.steady (.answer 200 1 [107]) id)
      ⟨.empty, ()⟩ = .ok (Fetch.page "k" 200 "http://[::1]") := by
    rw [← hcontent]
    rfl
  obtain ⟨results, title, hresult, hcount, htitle⟩ := hend.exists_ok (fun _ _ => rfl) hfetched
  exact ⟨plan, results, title, hplan, hresult, hcount, htitle⟩

end Stepwise
