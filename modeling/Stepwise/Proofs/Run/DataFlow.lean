import Stepwise.Proofs.Plan.Dependencies
import Stepwise.Proofs.Run.Agreement

namespace Stepwise

-- Two traces of one length with the same entries wherever the list says.
structure AgreeOn (reads : List Nat) (results results' : List Json) : Prop where
  length : results.length = results'.length
  entry : ∀ a ∈ reads, results[a]? = results'[a]?

-- A target that is no earlier step has no entry in either trace.
theorem AgreeOn.of_earlier {place : Nat} {targets : List Nat} {results results' : List Json}
    (hplace : results.length = place)
    (h : AgreeOn (Dependencies.earlier place targets) results results') :
    AgreeOn targets results results' where
  length := h.length
  entry a ha := by
    by_cases hearlier : a < place
    · exact h.entry a (Dependencies.mem_earlier.2 ⟨hearlier, ha⟩)
    · have hnone : results[a]? = none := List.getElem?_eq_none (by omega)
      have hnone' : results'[a]? = none := List.getElem?_eq_none (by have := h.length; omega)
      rw [hnone, hnone']

variable {reads : List Nat} {results results' : List Json} {place : Nat} {s : Step} {arg : String}
  {v : Json}

-- A pointer is resolved from the one entry that it names, and the length.
theorem resolve_agree (h : AgreeOn reads results results') {p : Pointer} (hp : p.step ∈ reads) :
    p.resolve results = p.resolve results' := by
  unfold Pointer.resolve
  rw [h.entry p.step hp, h.length]

theorem resolveArg_agree (h : AgreeOn reads results results')
    (hp : ∀ p, Pointer.detect? v = some (.ok p) → p.step ∈ reads) :
    resolveArg place results arg v = resolveArg place results' arg v := by
  unfold resolveArg
  split
  · rfl
  · rfl
  · next p hdetect => rw [resolve_agree h (hp p hdetect)]

theorem resolveEntries_agree (h : AgreeOn reads results results') {es : List (String × Json)}
    (hp : ∀ x ∈ es, ∀ p, Pointer.detect? x.2 = some (.ok p) → p.step ∈ reads) :
    resolveEntries place results es = resolveEntries place results' es := by
  induction es with
  | nil => rfl
  | cons x rest ih =>
    obtain ⟨arg, v⟩ := x
    rw [List.forall_mem_cons] at hp
    unfold resolveEntries
    rw [resolveArg_agree h hp.1, ih hp.2]

theorem resolveArgs_agree (h : AgreeOn s.targets results results') :
    resolveArgs place s results = resolveArgs place s results' := by
  have hentries : resolveEntries place results s.args.toList =
      resolveEntries place results' s.args.toList :=
    resolveEntries_agree h fun _ hx _ hp => Step.mem_targets_of_arg hx hp
  rw [resolveArgs, resolveArgs, hentries]

namespace Compute

theorem resolveInput_agree (h : AgreeOn reads results results')
    (hp : ∀ p, Pointer.detect? v = some (.ok p) → p.step ∈ reads) :
    resolveInput results place v = resolveInput results' place v := by
  unfold resolveInput
  split
  · rfl
  · rfl
  · next p hdetect => rw [resolve_agree h (hp p hdetect)]

theorem resolveInputsFrom_agree (h : AgreeOn reads results results') {items : List Json}
    (hp : ∀ v ∈ items, ∀ p, Pointer.detect? v = some (.ok p) → p.step ∈ reads) :
    resolveInputsFrom results place items = resolveInputsFrom results' place items := by
  induction items generalizing place with
  | nil => rfl
  | cons v rest ih =>
    rw [List.forall_mem_cons] at hp
    unfold resolveInputsFrom
    rw [resolveInput_agree h hp.1, ih hp.2]

-- What a checked computation gets as its inputs are those of its step, as written.
theorem result_agree {t : List Json} {args : Args} (hchecked : Checked s)
    (hkind : s.kind? = some .compute) (hargs : resolveArgs place s t = .ok args)
    (h : AgreeOn s.targets results results') : result args results = result args results' := by
  cases hchecked with
  | compute _ _ _ hinputs _ _ _ =>
    have hinputs' := get?_of_resolveArgs_literal hargs hinputs rfl
    have hresolve : resolveInputs args results = resolveInputs args results' := by
      simp only [resolveInputs, hinputs']
      exact resolveInputsFrom_agree h fun v hv p hp => Step.mem_targets_of_input hinputs hv hp
    unfold result
    rw [hresolve]
  | search hkind' | fetch hkind' | parse hkind' | store hkind' => cases hkind.symm.trans hkind'

end Compute

-- The dependencies of a step are all that it reads of the results so far. Where two contexts agree on
-- them, the step gets the same arguments or fails to resolve them by the same error, its tool gives
-- the same value or the same error, and the store ends the same.
theorem Plan.step_agree_of_dependencies {ν μ : Type} (settings : Settings) (network : Network ν)
    (network' : Network μ) (wording : Extract.Wording) (plan : Plan) (place : Nat) (s : Step)
    (context context' : Context) (world : World ν) (world' : World μ)
    (hs : plan.steps[place]? = some s) (hlength : context.runTrace.length = place) (hlength' : context'.runTrace.length = place)
    (hagree : ∀ a ∈ plan.dependencies.dependencies place,
      context.runTrace[a]? = context'.runTrace[a]?)
    (hstore : world.store = world'.store)
    (hreply : SameReply settings network network' s world world') :
    resolveArgs place s context.runTrace = resolveArgs place s context'.runTrace ∧
      (∃ tool tool', (builtinRegistry settings network wording).resolve s.tool = .ok tool ∧
        (builtinRegistry settings network' wording).resolve s.tool = .ok tool' ∧
        ∀ args, resolveArgs place s context.runTrace = .ok args →
          (tool.call args context world).1 = (tool'.call args context' world').1 ∧
            (tool.call args context world).2.2.store =
              (tool'.call args context' world').2.2.store) ∧
      ∀ (token : Token (World ν)) (token' : Token (World μ)),
        token place world = token' place world' →
          Run.Agreement context context'
            (Run.step (builtinRegistry settings network wording) token place s context world)
            (Run.step (builtinRegistry settings network' wording) token' place s context'
              world') := by
  have hchecked : Checked s := Plan.checked_of_mem (List.mem_of_getElem? hs)
  obtain ⟨kind, hkind⟩ := hchecked.exists_kind
  rw [Plan.dependencies_of_getElem? hs] at hagree
  have htargets : AgreeOn s.targets context.runTrace context'.runTrace :=
    .of_earlier hlength ⟨hlength.trans hlength'.symm, hagree⟩
  have hresolve : resolveArgs place s context.runTrace = resolveArgs place s context'.runTrace :=
    resolveArgs_agree htargets
  have hcompute (args : Args) (hargs : resolveArgs place s context.runTrace = .ok args)
      (hkind' : s.kind? = some .compute) :
      Compute.result args context.runTrace = Compute.result args context'.runTrace :=
    Compute.result_agree hchecked hkind' hargs htargets
  refine ⟨hresolve, ⟨_, _, resolve_builtinRegistry settings network wording hkind,
    resolve_builtinRegistry settings network' wording hkind, ?_⟩, ?_⟩
  · intro args hargs
    exact Run.call_agree_of_resolveArgs hchecked hkind hargs hstore hreply
      fun hkind' => hcompute args hargs (hkind' ▸ hkind)
  · intro token token' htoken
    exact Run.step_agree hchecked htoken hresolve hcompute hstore hreply

-- The last step reads the first one only.
def Plan.mergeFirst : Plan where
  steps :=
    [⟨"first", "Store", .ofList [("action", .str "read"), ("key", .str "a")]⟩,
     ⟨"second", "Store", .ofList [("action", .str "read"), ("key", .str "b")]⟩,
     ⟨"merge", "Compute", .ofList [("op", .str "merge"),
       ("inputs", .arr [.obj [("from", .ofNat 0), ("field", .str "")]])]⟩]
  valid := by decide

theorem Plan.step_agree_of_dependencies_mergeFirst :
    ∃ s, Plan.mergeFirst.steps[2]? = some s ∧
      Run.Agreement { Context.ofGoal "a" with current := [.obj [("page", .null)], .bool true] }
        { Context.ofGoal "b" with current := [.obj [("page", .null)], .bool false] }
        (Run.step (builtinRegistry {} (Network.closed (ν := Unit)) .plain) Token.never 2 s
          { Context.ofGoal "a" with current := [.obj [("page", .null)], .bool true] } ⟨.empty, ()⟩)
        (Run.step (builtinRegistry {} (Network.closed (ν := Nat)) .plain) Token.never 2 s
          { Context.ofGoal "b" with current := [.obj [("page", .null)], .bool false] }
          ⟨.empty, 0⟩) := by
  have hreads : Plan.mergeFirst.dependencies.dependencies 2 = [0] := by decide
  refine ⟨_, rfl, ?_⟩
  refine (Plan.step_agree_of_dependencies {} (Network.closed (ν := Unit))
    (Network.closed (ν := Nat)) .plain Plan.mergeFirst 2 _
    { Context.ofGoal "a" with current := [.obj [("page", .null)], .bool true] }
    { Context.ofGoal "b" with current := [.obj [("page", .null)], .bool false] }
    ⟨.empty, ()⟩ ⟨.empty, 0⟩ rfl rfl rfl ?_ rfl fun _ _ _ => rfl).2.2 Token.never Token.never rfl
  intro a ha
  rw [hreads, List.mem_singleton] at ha
  rw [ha]
  rfl

end Stepwise
