import Stepwise.Proofs.Run.Completion
import Stepwise.Proofs.Run.Dangling
import Stepwise.Proofs.Tool.Keep

namespace Stepwise

variable {settings : Settings} {wording : Extract.Wording} {reply : String → Reply} {place : Nat}
  {s : Step} {results : List Json} {store after : Store} {v : Json}

-- What a step has written once it completes: the key, and what its value was resolved to, or null
-- without one.
def Step.write? (s : Step) (place : Nat) (results : List Json) : Option (String × Json) :=
  match s.access?, resolveArgs place s results with
  | some (.write, key), .ok args => some (key, (args.get? "value").getD .null)
  | _, _ => none

theorem Step.access?_of_write? {e : String × Json} (h : s.write? place results = some e) :
    s.access? = some (.write, e.1) := by
  unfold write? at h
  split at h
  · next haccess _ =>
    cases h
    exact haccess
  · cases h

-- A completed step and the store: a write gives true and leaves its entry, a read gives what is
-- there, and no other step changes anything.
inductive Keeps (place : Nat) (s : Step) (results : List Json) (store : Store) :
    Json → Store → Prop
  | write {key : String} {args : Args} (haccess : s.access? = some (.write, key))
    (hargs : resolveArgs place s results = .ok args) :
    Keeps place s results store (.bool true) (store.insert key ((args.get? "value").getD .null))
  | read {key : String} (haccess : s.access? = some (.read, key)) :
    Keeps place s results store ((store.get? key).getD .null) store
  | other {v : Json} (haccess : s.access? = none) : Keeps place s results store v store

theorem Completes.keeps (hchecked : Checked s)
    (h : Completes settings wording reply place s results store v after) :
    Keeps place s results store v after := by
  cases h with
  | intro hkind hargs h =>
    cases h with
    | search | fetch | parse | compute => exact .other (Step.access?_of_kind?_ne (by simp [hkind]))
    | store hresult =>
      obtain ⟨action, key, haccess⟩ := hchecked.exists_access? hkind
      rw [Keep.result_of_access? haccess hargs] at hresult
      cases action with
      | write =>
        cases hresult
        exact .write haccess hargs
      | read =>
        cases hresult
        exact .read haccess

theorem Keeps.after_eq (h : Keeps place s results store v after) :
    after = store.insertAll (s.write? place results).toList := by
  cases h with
  | write haccess hargs =>
    simp only [Step.write?, haccess, hargs]
    rfl
  | read haccess =>
    simp only [Step.write?, haccess]
    rfl
  | other haccess =>
    simp only [Step.write?, haccess]
    rfl

-- What steps have written once they have all completed with these results, in their order.
def writes (done : List Step) (results : List Json) : List (String × Json) :=
  done.zipIdx.filterMap fun (s, place) => s.write? place (results.take place)

section

variable {done : List Step}

-- Only the results of earlier steps are looked at.
theorem writes_of_take_eq {results' : List Json}
    (h : ∀ place < done.length, results.take place = results'.take place) :
    writes done results = writes done results' := by
  refine List.filterMap_congr fun ⟨s, place⟩ hs => ?_
  obtain ⟨hplace, _⟩ := List.getElem?_eq_some_iff.1 (List.mk_mem_zipIdx_iff_getElem?.1 hs)
  dsimp only
  rw [h place hplace]

theorem writes_append_left (hlength : results.length = done.length) (more : List Json) :
    writes done (results ++ more) = writes done results :=
  writes_of_take_eq fun place hplace => List.take_append_of_le_length (by omega)

theorem writes_concat (hlength : results.length = done.length) :
    writes (done ++ [s]) (results ++ [v]) =
      writes done results ++ (s.write? done.length results).toList := by
  have hlast : (results ++ [v]).take done.length = results := List.take_left' hlength
  rw [← writes_append_left hlength [v], writes, List.zipIdx_append, List.filterMap_append,
    List.zipIdx_singleton, Nat.zero_add, List.filterMap_cons, List.filterMap_nil]
  dsimp only
  rw [hlast]
  cases s.write? done.length results <;> rfl

end

-- The store once steps have completed with these results: it is the store before with all that they
-- wrote, in their order, and has every other key as it was. A write gave true, and a read what was
-- kept just before it, or null if nothing was.
structure Kept (done : List Step) (results : List Json) (store after : Store) : Prop where
  length : results.length = done.length
  after_eq : after = store.insertAll (writes done results)
  others : ∀ key : String, (∀ s ∈ done, s.access? ≠ some (.write, key)) →
    after.get? key = store.get? key
  written : ∀ (place : Nat) (s : Step) (v : Json) (key : String), done[place]? = some s →
    results[place]? = some v → s.access? = some (.write, key) →
    v = .bool true ∧ ∃ args, resolveArgs place s (results.take place) = .ok args ∧
      s.write? place (results.take place) = some (key, (args.get? "value").getD .null)
  read : ∀ (place : Nat) (s : Step) (v : Json) (key : String), done[place]? = some s →
    results[place]? = some v → s.access? = some (.read, key) →
    v = ((store.insertAll (writes (done.take place) (results.take place))).get? key).getD .null

theorem Kept.nil : Kept [] [] store store where
  length := rfl
  after_eq := rfl
  others _ _ := rfl
  written _ _ _ _ hs := by cases hs
  read _ _ _ _ hs := by cases hs

-- What stands at a place of a list with one more at its end.
theorem getElem?_concat_cases {α : Type} {l : List α} {x y : α} {i : Nat}
    (h : (l ++ [x])[i]? = some y) : i < l.length ∧ l[i]? = some y ∨ i = l.length ∧ x = y := by
  rcases Nat.lt_trichotomy i l.length with hlt | rfl | hgt
  · rw [List.getElem?_append_left hlt] at h
    exact .inl ⟨hlt, h⟩
  · rw [List.getElem?_concat_length] at h
    exact .inr ⟨rfl, Option.some.inj h⟩
  · rw [List.getElem?_eq_none (by simp; omega)] at h
    cases h

theorem Kept.concat {done : List Step} {mid : Store} (h : Kept done results store mid)
    (hlast : Keeps done.length s results mid v after) :
    Kept (done ++ [s]) (results ++ [v]) store after where
  length := by simp [h.length]
  after_eq := by
    rw [writes_concat h.length, Dict.insertAll_append, ← h.after_eq]
    exact hlast.after_eq
  others key hkey := by
    rw [List.forall_mem_append, List.forall_mem_singleton] at hkey
    rw [hlast.after_eq, Dict.get?_insertAll_of_forall_ne]
    · exact h.others key hkey.1
    · rintro e he rfl
      exact hkey.2 (Step.access?_of_write? (Option.mem_toList.1 he))
  written place s' v' key hs hv haccess := by
    rcases getElem?_concat_cases hs with ⟨hplace, hs⟩ | ⟨rfl, rfl⟩
    · rw [List.getElem?_append_left (h.length ▸ hplace)] at hv
      rw [List.take_append_of_le_length (Nat.le_of_lt (h.length ▸ hplace))]
      exact h.written place s' v' key hs hv haccess
    · rw [← h.length, List.getElem?_concat_length, Option.some.injEq] at hv
      subst hv
      rw [List.take_left' h.length]
      cases hlast with
      | write haccess' hargs =>
        cases haccess.symm.trans haccess'
        exact ⟨rfl, _, hargs, by simp only [Step.write?, haccess, hargs]⟩
      | read haccess' | other haccess' => cases haccess.symm.trans haccess'
  read place s' v' key hs hv haccess := by
    rcases getElem?_concat_cases hs with ⟨hplace, hs⟩ | ⟨rfl, rfl⟩
    · have hresults : (results ++ [v]).take place = results.take place :=
        List.take_append_of_le_length (Nat.le_of_lt (h.length ▸ hplace))
      rw [List.getElem?_append_left (h.length ▸ hplace)] at hv
      rw [hresults, List.take_append_of_le_length (Nat.le_of_lt hplace)]
      exact h.read place s' v' key hs hv haccess
    · rw [← h.length, List.getElem?_concat_length, Option.some.injEq] at hv
      subst hv
      rw [List.take_left' h.length, List.take_left' rfl, ← h.after_eq]
      cases hlast with
      | read haccess' =>
        cases haccess.symm.trans haccess'
        rfl
      | write haccess' _ | other haccess' => cases haccess.symm.trans haccess'

namespace Run

variable {ν : Type} {network : Network ν} {token : Token (World ν)} {ss : List Step}
  {context next : Context} {world left : World ν}

theorem kept_of_steps_ok (hchecked : ∀ s ∈ ss, Checked s) (hstart : context.runTrace = [])
    (h : steps (builtinRegistry settings network wording) token 0 ss context world =
      (.ok (), next, left)) :
    Kept ss next.runTrace world.store left.store := by
  induction ss using List.reverseRecOn generalizing next left with
  | nil =>
    cases h
    rw [hstart]
    exact .nil
  | append_singleton done s ih =>
    rw [List.forall_mem_append, List.forall_mem_singleton] at hchecked
    obtain ⟨before, reached, hdone, hstep⟩ := exists_of_steps_concat_ok h
    have hkept := ih hchecked.1 hdone
    obtain ⟨calls, htransition⟩ := transition_of_step hstep
    obtain ⟨v, htrace, hcompletes⟩ := htransition.completes
    rw [Nat.zero_add] at hcompletes
    rw [htrace]
    exact hkept.concat (hcompletes.keeps hchecked.2)

end Run

namespace Executor

-- A completed run has a result for each of its steps, and one that stops has one for each step
-- before the step that it stops at.
theorem length_results {ν : Type} (settings : Settings) (network : Network ν)
    (wording : Extract.Wording) (token : Token (World ν)) (plan : Plan) (context : Context)
    (world : World ν) :
    (∀ results, ((builtin settings network wording).execute token plan context world).result =
      .ok results → results.length = plan.length) ∧
    ∀ failure, ((builtin settings network wording).execute token plan context world).result =
      .error failure →
        failure.trace.length = failure.error.step ∧ failure.error.step < plan.length := by
  constructor
  · intro results hresult
    have hresults : ((builtin settings network wording).execute token plan context world).results =
        results := by
      rw [Outcome.results, hresult]
    rw [← hresults, results_execute,
      Run.length_runTrace_of_steps_ok (reaches_of_execute_ok hresult), Plan.length, List.take_length]
    exact Nat.zero_add _
  · intro failure hresult
    obtain ⟨s, before, reached, calls, hfails⟩ := exists_failsAt hresult
    obtain ⟨hstep, -⟩ := List.getElem?_eq_some_iff.1 hfails.getElem?
    exact ⟨hfails.length, hstep⟩

-- The last state that a run reaches has all its results and the store that it leaves.
theorem exists_reaches_results {ν : Type} (settings : Settings) (network : Network ν)
    (wording : Extract.Wording) (token : Token (World ν)) (plan : Plan) (context : Context)
    (world : World ν) :
    ∃ before reached, (builtin settings network wording).Reaches token plan context world
        ((builtin settings network wording).execute token plan context world).results.length
        before reached ∧
      before.runTrace =
        ((builtin settings network wording).execute token plan context world).results ∧
      reached.store =
        ((builtin settings network wording).execute token plan context world).world.store := by
  obtain ⟨hok, herror⟩ := length_results settings network wording token plan context world
  cases hresult : ((builtin settings network wording).execute token plan context world).result with
  | ok results =>
    have hresults : ((builtin settings network wording).execute token plan context world).results =
        results := by
      rw [Outcome.results, hresult]
    refine ⟨_, _, ?_, results_execute.symm, rfl⟩
    rw [hresults, hok results hresult]
    exact reaches_of_execute_ok hresult
  | error failure =>
    obtain ⟨s, before, reached, calls, hfails⟩ := exists_failsAt hresult
    have hresults : ((builtin settings network wording).execute token plan context world).results =
        failure.trace := by
      rw [Outcome.results, hresult]
    refine ⟨before, reached, ?_, hresults.symm ▸ hfails.trace.symm, ?_⟩
    · rw [hresults, (herror failure hresult).1]
      exact hfails.done
    · exact hfails.transition.store_eq_of_error.symm

-- The store is the fold of the completed writes. A run with the built-in tools ends with a result
-- for each step of its plan, or, where it stops, for each step before that one, and however it ends,
-- it leaves the store that the steps with a result have made of the one before.
theorem execute_kept {ν : Type} (settings : Settings) (network : Network ν)
    (wording : Extract.Wording) (token : Token (World ν)) (plan : Plan) (context : Context)
    (world : World ν) :
    (∀ results, ((builtin settings network wording).execute token plan context world).result =
      .ok results → results.length = plan.length) ∧
    (∀ failure, ((builtin settings network wording).execute token plan context world).result =
      .error failure →
        failure.trace.length = failure.error.step ∧ failure.error.step < plan.length) ∧
    Kept
      (plan.steps.take
        ((builtin settings network wording).execute token plan context world).results.length)
      ((builtin settings network wording).execute token plan context world).results world.store
      ((builtin settings network wording).execute token plan context world).world.store := by
  obtain ⟨hok, herror⟩ := length_results settings network wording token plan context world
  refine ⟨hok, herror, ?_⟩
  obtain ⟨before, reached, hreaches, hresults, hstore⟩ :=
    exists_reaches_results settings network wording token plan context world
  rw [← hstore]
  nth_rewrite 2 [← hresults]
  exact Run.kept_of_steps_ok
    (fun s hs => Plan.checked_of_mem (List.mem_of_mem_take hs)) rfl hreaches

end Executor

-- A plan that keeps a word, reads it, and keeps what it has read under another key.
def Plan.copyWord : Plan where
  steps :=
    [⟨"keep", "Store", .ofList [("action", .str "write"), ("key", .str "word"),
       ("value", .str "ape")]⟩,
     ⟨"read", "Store", .ofList [("action", .str "read"), ("key", .str "word")]⟩,
     ⟨"copy", "Store", .ofList [("action", .str "write"), ("key", .str "copy"),
       ("value", (Pointer.mk 1 "").toJson)]⟩]
  valid := by rfl

-- Over a store that has another word: the read gives the word just kept, and the copy is what came
-- through the pointer to it. Stopped before the copy, the run has kept the word alone.
theorem Executor.execute_kept_copyWord :
    ∃ outcome stopped : Outcome (World Unit), ∃ results : List Json, ∃ failure : Failure,
      (builtin {} Network.closed .plain).execute Token.never Plan.copyWord (.ofGoal "")
        ⟨.ofList [("word", .str "bee"), ("other", .null)], ()⟩ = outcome ∧
      outcome.result = .ok results ∧ results.length = Plan.copyWord.length ∧
      results[1]? = some (.str "ape") ∧
      outcome.world.store.entries =
        [("copy", .str "ape"), ("other", .null), ("word", .str "ape")] ∧
      (builtin {} Network.closed .plain).execute (fun place _ => place == 2) Plan.copyWord
        (.ofGoal "") ⟨.ofList [("word", .str "bee"), ("other", .null)], ()⟩ = stopped ∧
      stopped.result = .error failure ∧ failure.trace.length = 2 ∧
      stopped.world.store.entries = [("other", .null), ("word", .str "ape")] := by
  obtain ⟨hok, -, hkept⟩ := execute_kept {} (Network.closed (ν := Unit)) .plain Token.never
    Plan.copyWord (.ofGoal "") ⟨.ofList [("word", .str "bee"), ("other", .null)], ()⟩
  obtain ⟨-, herror, hkept'⟩ := execute_kept {} (Network.closed (ν := Unit)) .plain
    (fun place _ => place == 2) Plan.copyWord (.ofGoal "")
    ⟨.ofList [("word", .str "bee"), ("other", .null)], ()⟩
  refine ⟨_, _, _, _, rfl, rfl, hok _ rfl, ?_, ?_, rfl, rfl, (herror _ rfl).1, ?_⟩
  · rw [hkept.read 1 _ _ "word" rfl rfl rfl]
    rfl
  · rw [hkept.after_eq]
    rfl
  · rw [hkept'.after_eq]
    rfl

end Stepwise
