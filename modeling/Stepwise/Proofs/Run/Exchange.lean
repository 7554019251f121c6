import Stepwise.Proofs.Plan.Exchange
import Stepwise.Proofs.Run.Renumber

namespace Stepwise

variable {settings : Settings} {wording : Extract.Wording} {reply : String → Reply}
  {place place' : Nat} {a b s : Step} {ss : List Step} {results results' : List Json}
  {store after : Store} {v : Json}

-- Of two actions on the store that do not conflict, each gives the same whichever comes first, and
-- together they leave the same store.
theorem StoreAction.perform_comm {x y : StoreAction} {key other : String}
    (h : key ≠ other ∨ (x = .read ∧ y = .read)) (args args' : Args) (store : Store) :
    (y.perform other args' (x.perform key args store).2).1 = (y.perform other args' store).1 ∧
      (x.perform key args (y.perform other args' store).2).1 = (x.perform key args store).1 ∧
      (y.perform other args' (x.perform key args store).2).2 =
        (x.perform key args (y.perform other args' store).2).2 := by
  rcases h with hne | ⟨rfl, rfl⟩
  · cases x with
    | write =>
      cases y with
      | write => exact ⟨rfl, rfl, Dict.insert_comm _ hne _ _⟩
      | read =>
        refine ⟨?_, rfl, rfl⟩
        simp only [perform, Dict.get?_insert, if_neg hne.symm]
    | read =>
      cases y with
      | write =>
        refine ⟨rfl, ?_, rfl⟩
        simp only [perform, Dict.get?_insert, if_neg hne]
      | read => exact ⟨rfl, rfl, rfl⟩
  · exact ⟨rfl, rfl, rfl⟩

theorem Step.apart_of_not_conflicts {x y : StoreAction} {key other : String}
    (h : ¬ a.Conflicts b) (ha : a.access? = some (x, key)) (hb : b.access? = some (y, other)) :
    key ≠ other ∨ (x = .read ∧ y = .read) := by
  by_cases hkey : key = other
  · subst hkey
    have hread {z : StoreAction} (hz : z ≠ .write) : z = .read := by
      cases z with
      | write => exact absurd rfl hz
      | read => rfl
    exact .inr ⟨hread fun hx => h ⟨key, x, y, ha, hb, .inl hx⟩,
      hread fun hy => h ⟨key, x, y, ha, hb, .inr hy⟩⟩
  · exact .inl hkey

namespace Completes

-- A step without access to the store gives the same over any, and leaves it as it is.
theorem of_access?_none (hchecked : Checked s) (haccess : s.access? = none)
    (h : Completes settings wording reply place s results store v after) :
    after = store ∧ ∀ store', Completes settings wording reply place s results store' v store' := by
  cases h with
  | intro hkind hargs h =>
    cases h with
    | search hresult => exact ⟨rfl, fun _ => .intro hkind hargs (.search hresult)⟩
    | fetch hurl hcheck hread => exact ⟨rfl, fun _ => .intro hkind hargs (.fetch hurl hcheck hread)⟩
    | parse hresult => exact ⟨rfl, fun _ => .intro hkind hargs (.parse hresult)⟩
    | compute hresult => exact ⟨rfl, fun _ => .intro hkind hargs (.compute hresult)⟩
    | store _ =>
      obtain ⟨action, key, hsome⟩ := hchecked.exists_access? hkind
      cases haccess.symm.trans hsome

theorem of_access? {action : StoreAction} {key : String}
    (haccess : s.access? = some (action, key))
    (h : Completes settings wording reply place s results store v after) :
    ∃ args, v = (action.perform key args store).1 ∧ after = (action.perform key args store).2 ∧
      ∀ store', Completes settings wording reply place s results store'
        (action.perform key args store').1 (action.perform key args store').2 := by
  cases h with
  | @intro kind args hkind hargs h =>
    cases hkind.symm.trans (Step.access?_eq_some_iff.1 haccess).1
    cases h with
    | store hresult =>
      rw [Keep.result_of_access? haccess hargs] at hresult
      have hpair := Except.ok.inj hresult
      exact ⟨args, (congrArg Prod.fst hpair).symm, (congrArg Prod.snd hpair).symm, fun store' =>
        .intro hkind hargs (.store (Keep.result_of_access? haccess hargs))⟩

-- Two steps that do not conflict complete in the other order too. Each gives the same, and together
-- they leave the same store.
theorem exists_comm {u w : Json} {mid : Store} (hacheck : Checked a) (hbcheck : Checked b)
    (hkeys : ¬ a.Conflicts b) (ha : Completes settings wording reply place a results store u mid)
    (hb : Completes settings wording reply place' b results' mid w after) :
    ∃ mid', Completes settings wording reply place' b results' store w mid' ∧
      Completes settings wording reply place a results mid' u after := by
  cases hbaccess : b.access? with
  | none =>
    obtain ⟨rfl, hb'⟩ := hb.of_access?_none hbcheck hbaccess
    exact ⟨store, hb' store, ha⟩
  | some y =>
    cases haaccess : a.access? with
    | none =>
      obtain ⟨rfl, ha'⟩ := ha.of_access?_none hacheck haaccess
      exact ⟨after, hb, ha' after⟩
    | some x =>
      obtain ⟨x, key⟩ := x
      obtain ⟨y, other⟩ := y
      obtain ⟨args, rfl, rfl, ha'⟩ := ha.of_access? haaccess
      obtain ⟨args', rfl, rfl, hb'⟩ := hb.of_access? hbaccess
      have hapart := Step.apart_of_not_conflicts hkeys haaccess hbaccess
      obtain ⟨hw, hu, hafter⟩ := StoreAction.perform_comm hapart args args' store
      refine ⟨(y.perform other args' store).2, ?_, ?_⟩
      · rw [hw]
        exact hb' store
      · rw [← hu, hafter]
        exact ha' _

-- A step does the same anywhere, with any results that have what its pointers lead to.
theorem move (hchecked : Checked s)
    (h : Completes settings wording reply place s results store v after)
    (hsame : ∀ p, s.Uses p → p.step < results.length → results'[p.step]? = results[p.step]?)
    (place' : Nat) : Completes settings wording reply place' s results' store v after := by
  have hfollows : s.Follows id results results' := fun p hp =>
    Pointer.follows_of_getElem? (hsame p hp)
  rw [← s.renumber_id]
  exact h.renumber (fun _ hn => hn) hchecked hfollows place'

end Completes

theorem Step.mem_targets_of_uses {p : Pointer} (h : s.Uses p) : p.step ∈ s.targets := by
  cases h with
  | arg hget hp => exact mem_targets_of_arg (Dict.mem_of_get? hget) hp
  | input _ hinputs hv hp => exact mem_targets_of_input hinputs hv hp

-- Neighbours of which the second does not read from the first, and that do not conflict, complete in
-- the other order too.
theorem Runs.exchange_head (hchecked : ∀ s ∈ a :: b :: ss, Checked s)
    (hreads : results.length ∉ b.targets) (hkeys : ¬ a.Conflicts b)
    (h : Runs settings wording reply results store (a :: b :: ss) results' after) :
    ∃ u w mid, Runs settings wording reply results store [b, a] (results ++ [w, u]) mid ∧
      Runs settings wording reply (results ++ [u, w]) mid ss results' after := by
  simp only [List.forall_mem_cons] at hchecked
  obtain ⟨hacheck, hbcheck, -⟩ := hchecked
  cases h with
  | @cons _ _ _ _ _ between _ u ha h =>
    cases h with
    | @cons _ _ _ _ _ mid _ w hb hrest =>
      obtain ⟨between', hb', ha'⟩ := Completes.exists_comm hacheck hbcheck hkeys ha hb
      have hfirst : Completes settings wording reply results.length b results store w between' := by
        refine hb'.move hbcheck (fun p hp hlt => ?_) _
        have hne : p.step ≠ results.length := fun heq => hreads (heq ▸ Step.mem_targets_of_uses hp)
        rw [List.length_append, List.length_singleton] at hlt
        rw [List.getElem?_append_left (by omega)]
      have hsecond : Completes settings wording reply (results ++ [w]).length a (results ++ [w])
          between' u mid := ha'.move hacheck (fun p _ hlt => List.getElem?_append_left hlt) _
      have hpair : Runs settings wording reply results store [b, a] (results ++ [w] ++ [u]) mid :=
        .cons hfirst (.cons hsecond .nil)
      rw [List.append_assoc] at hpair hrest
      exact ⟨u, w, mid, hpair, hrest⟩

-- Steps complete in the same way with two of the results so far exchanged, once their pointers are
-- renumbered.
theorem Runs.renumber (hchecked : ∀ s ∈ ss, Checked s) (hplace : place + 1 < results.length)
    (hnumber : place + 1 < 0x10000000000000000)
    (h : Runs settings wording reply results store ss results' after) :
    Runs settings wording reply (exchange place results) store
      (ss.map (Step.renumber (Equiv.swap place (place + 1)))) (exchange place results') after := by
  induction h with
  | nil => exact .nil
  | @cons s rest results _ _ _ _ v hfirst _ ih =>
    rw [List.forall_mem_cons] at hchecked
    have hfollows : s.Follows (Equiv.swap place (place + 1)) results (exchange place results) :=
      fun p _ => Pointer.follows_of_getElem? fun _ => getElem?_exchange hplace p.step
    have hrest := ih hchecked.2 (by rw [List.length_append]; omega)
    rw [exchange_concat hplace] at hrest
    exact .cons (hfirst.renumber (fun n hn => swap_lt hnumber hn) hchecked.1 hfollows _) hrest

theorem Runs.exchangeSteps (hchecked : ∀ s ∈ ss, Checked s) (ha : ss[place]? = some a)
    (hb : ss[place + 1]? = some b) (hreads : place ∉ b.targets) (hkeys : ¬ a.Conflicts b)
    (hnumber : place + 1 < 0x10000000000000000)
    (h : Runs settings wording reply [] store ss results after) :
    Runs settings wording reply [] store (exchangeSteps place ss) (exchange place results) after := by
  obtain ⟨hplace, _⟩ := List.getElem?_eq_some_iff.1 hb
  obtain ⟨before, a', b', rest, rfl, rfl⟩ := exists_eq_append hplace
  obtain rfl : a' = a := by simpa using ha
  obtain rfl : b' = b := by simpa using hb
  obtain ⟨results₀, store₀, hbefore, h⟩ := exists_of_runs_append h
  have hlength : results₀.length = before.length := by simpa using hbefore.length_eq
  have hchecked' := (List.forall_mem_append.1 hchecked).2
  rw [← hlength] at hreads
  obtain ⟨u, w, mid, hpair, hrest⟩ := h.exchange_head hchecked' hreads hkeys
  simp only [List.forall_mem_cons] at hchecked'
  have hrest' := hrest.renumber hchecked'.2.2 (by simp [hlength]) hnumber
  rw [← hlength, exchange_append, hlength] at hrest'
  rw [exchangeSteps_append]
  exact hbefore.append (hpair.append hrest')

-- Where a step does not read from the one before it, and the two are not steps of the store tool on
-- one key of which one writes, they may change places. The plan stays valid once later pointers to
-- them are renumbered, and if the run before completes, then so does the run after, with their two
-- results exchanged and the same store. Steps are counted in words of 64 bits, in a plan as in a
-- pointer, which is all that is asked of the place.
theorem Executor.execute_exchange {ν μ : Type} {network : Network ν} {network' : Network μ}
    {token : Token (World ν)} {plan : Plan} {context context' : Context} {world : World ν}
    {world' : World μ} (hreply : network.Answers reply) (hreply' : network'.Answers reply)
    (hstore : world.store = world'.store) (ha : plan.steps[place]? = some a)
    (hb : plan.steps[place + 1]? = some b) (hnumber : place + 1 < 0x10000000000000000)
    (hreads : place ∉ plan.dependencies.dependencies (place + 1)) (hkeys : ¬ a.Conflicts b)
    (hrun : ((builtin settings network wording).execute token plan context world).result =
      .ok results) :
    ∃ plan', Plan.ofSteps (exchangeSteps place plan.steps) = .ok plan' ∧
      ((builtin settings network' wording).execute Token.never plan' context' world').result =
        .ok (exchange place results) ∧
      ((builtin settings network' wording).execute Token.never plan' context' world').world.store =
        ((builtin settings network wording).execute token plan context world).world.store := by
  have hchecked : ∀ s ∈ plan.steps, Checked s := fun s hs => Plan.checked_of_mem hs
  have hplace : place + 1 < plan.steps.length := (List.getElem?_eq_some_iff.1 hb).1
  have hvalid : violations (exchangeSteps place plan.steps) = [] :=
    violations_exchangeSteps hchecked hplace hnumber
  have htargets : place ∉ b.targets := fun hmem => hreads (by
    rw [Plan.dependencies_of_getElem? hb]
    exact Dependencies.mem_earlier.2 ⟨Nat.lt_succ_self place, hmem⟩)
  have hruns := (runs_of_execute hreply hrun).exchangeSteps hchecked ha hb htargets hkeys hnumber
  rw [hstore] at hruns
  exact ⟨⟨exchangeSteps place plan.steps, hvalid⟩, Plan.ofSteps_of_valid hvalid,
    execute_of_runs hreply' hruns⟩

def Plan.mergeRead : Plan where
  steps :=
    [⟨"read", "Store", .ofList [("action", .str "read"), ("key", .str "a")]⟩,
     ⟨"keep", "Store", .ofList [("action", .str "write"), ("key", .str "b"), ("value", .str "v")]⟩,
     ⟨"merge", "Compute", .ofList [("op", .str "merge"),
       ("inputs", .arr [.obj [("from", .ofNat 0), ("field", .str "")]])]⟩]
  valid := by decide

theorem Executor.execute_exchange_mergeRead :
    ∃ plan', Plan.ofSteps (exchangeSteps 0 Plan.mergeRead.steps) = .ok plan' ∧
      ((builtin {} (Network.closed (ν := Unit)) .plain).execute Token.never plan' (.ofGoal "")
        ⟨.ofList [("a", .obj [("x", .null)])], ()⟩).result =
          .ok [.bool true, .obj [("x", .null)], .obj [("x", .null)]] ∧
      ((builtin {} (Network.closed (ν := Unit)) .plain).execute Token.never plan' (.ofGoal "")
        ⟨.ofList [("a", .obj [("x", .null)])], ()⟩).world.store =
          .ofList [("a", .obj [("x", .null)]), ("b", .str "v")] := by
  have hkeys (h : Step.Conflicts ⟨"read", "Store", .ofList [("action", .str "read"),
      ("key", .str "a")]⟩ ⟨"keep", "Store", .ofList [("action", .str "write"), ("key", .str "b"),
      ("value", .str "v")]⟩) : False := by
    obtain ⟨key, x, y, hread, hwrite, -⟩ := h
    have hkey : "a" = key := congrArg Prod.snd (Option.some.inj hread)
    have hother : "b" = key := congrArg Prod.snd (Option.some.inj hwrite)
    exact absurd (hkey.trans hother.symm) (by decide)
  have hreply : (Network.closed (ν := Unit)).Answers fun _ => .unreachable "no connection" :=
    fun _ _ _ => rfl
  have hrun : ((builtin {} (Network.closed (ν := Unit)) .plain).execute Token.never Plan.mergeRead
      (.ofGoal "") ⟨.ofList [("a", .obj [("x", .null)])], ()⟩).result =
        .ok [.obj [("x", .null)], .bool true, .obj [("x", .null)]] := rfl
  exact execute_exchange hreply hreply rfl (by rfl) (by rfl) (by decide) (by decide) hkeys hrun

end Stepwise
