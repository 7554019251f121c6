import Stepwise.Proofs.Plan.Checked
import Stepwise.Proofs.Pointer.Basic
import Stepwise.Proofs.Run.Arguments

namespace Stepwise

variable {kind : StepKind} {s : Step} {name arg field : String} {v : Json} {place step target : Nat}
  {trace : List Json} {cause : Pointer.Malformed}

-- The arguments whose form is settled before a plan is run, by the kind of the step. Any other is only
-- looked at when the step is run: one that no constraint names, or of which the constraints ask no
-- more than that it be an object, of texts perhaps, as a malformed pointer may be.
def StepKind.settled : StepKind → List String
  | search => ["query", "top_k"]
  | fetch => ["url"]
  | parse => ["raw"]
  | compute => ["op", "inputs"]
  | store => ["action", "key"]

-- What a settled argument is in a checked step: a literal, or a pointer.
theorem Checked.detect?_of_settled (h : Checked s) (hkind : s.kind? = some kind)
    (hname : name ∈ kind.settled) (hget : s.args.get? name = some v) :
    Pointer.detect? v = none ∨ ∃ p, Pointer.detect? v = some (.ok p) := by
  cases h with
  | search hkind' hquery hlinks hk _ =>
    cases hkind.symm.trans hkind'
    rcases List.mem_pair.1 hname with rfl | rfl
    · cases hget.symm.trans hquery
      exact .inl rfl
    · cases hget.symm.trans hlinks
      exact .inl (detect?_of_toInt64? hk)
  | fetch hkind' hurl _ =>
    cases hkind.symm.trans hkind'
    cases List.mem_singleton.1 hname
    cases hget.symm.trans hurl
    exact .inl rfl
  | parse hkind' hraw hp _ _ =>
    cases hkind.symm.trans hkind'
    cases List.mem_singleton.1 hname
    cases hget.symm.trans hraw
    exact .inr ⟨_, hp⟩
  | compute hkind' hop _ hinputs _ _ _ =>
    cases hkind.symm.trans hkind'
    rcases List.mem_pair.1 hname with rfl | rfl
    · cases hget.symm.trans hop
      exact .inl rfl
    · cases hget.symm.trans hinputs
      exact .inl rfl
  | store hkind' haction _ hkey =>
    cases hkind.symm.trans hkind'
    rcases List.mem_pair.1 hname with rfl | rfl
    · cases hget.symm.trans haction
      exact .inl rfl
    · cases hget.symm.trans hkey
      exact .inl rfl

theorem Checked.isPointer_of_settled (h : Checked s) (hkind : s.kind? = some kind)
    (hname : name ∈ kind.settled) (hget : s.args.get? name = some v)
    (hshape : Pointer.hasShape v = true) : v.IsPointer := by
  rcases h.detect?_of_settled hkind hname hget with hnone | hp
  · rw [Pointer.detect?_eq_none_iff, hshape] at hnone
    cases hnone
  · exact Pointer.exists_detect?_ok_iff.1 hp

-- An object that a schema may be, with the shape of a pointer.
def selectorPair : Json := .obj [("from", .str "css:a"), ("field", .str "css:b")]

theorem not_isPointer_selectorPair : ¬ selectorPair.IsPointer :=
  (Pointer.exists_malformed_iff.1 ⟨.step, rfl⟩).2

-- Arguments that a step of a kind may have, and no others.
def StepKind.sample : StepKind → Args
  | search => .ofList [("query", .str ""), ("top_k", .ofNat 1)]
  | fetch => .ofList [("url", .str "http://[::]")]
  | parse => .ofList [("raw", .obj [("from", .ofNat 0), ("field", .str "")]), ("schema", .obj [])]
  | compute => .ofList [("op", .str "merge"), ("inputs", .arr [])]
  | store => .ofList [("action", .str "read"), ("key", .str "")]

-- A step of a kind with one argument that has the shape of a pointer and is none.
def StepKind.sampleStep (kind : StepKind) (name : String) : Step :=
  ⟨"", kind.toolName, kind.sample.insert name selectorPair⟩

theorem get?_sampleStep_of_ne {other : String} (h : other ≠ name) :
    (kind.sampleStep name).args.get? other = kind.sample.get? other := by
  rw [StepKind.sampleStep, Dict.get?_insert, if_neg h]

theorem get?_sampleStep : (kind.sampleStep name).args.get? name = some selectorPair := by
  rw [StepKind.sampleStep, Dict.get?_insert, if_pos rfl]

theorem checked_sampleStep (h : name ∉ kind.settled) : Checked (kind.sampleStep name) := by
  have hkind : (kind.sampleStep name).kind? = some kind :=
    StepKind.ofToolName?_eq_some_iff.2 rfl
  have hget {other : String} (hother : other ∈ kind.settled) :
      (kind.sampleStep name).args.get? other = kind.sample.get? other :=
    get?_sampleStep_of_ne fun heq => h (heq ▸ hother)
  cases kind with
  | search =>
    exact .search hkind ((hget (by decide)).trans rfl) ((hget (by decide)).trans rfl) rfl rfl
  | fetch => exact .fetch hkind ((hget (by decide)).trans rfl) rfl
  | parse =>
    by_cases hschema : "schema" = name
    · subst hschema
      refine .parse hkind ((hget (by decide)).trans rfl) rfl get?_sampleStep ?_
      simp only [List.forall_mem_cons]
      exact ⟨⟨_, rfl, rfl⟩, ⟨_, rfl, rfl⟩, List.forall_mem_nil _⟩
    · exact .parse hkind ((hget (by decide)).trans rfl) rfl
        ((get?_sampleStep_of_ne hschema).trans rfl) (List.forall_mem_nil _)
  | compute =>
    have hop : (StepKind.compute.sampleStep name).args.get? "op" = some (.str "merge") :=
      (hget (by decide)).trans rfl
    refine .compute hkind hop rfl ((hget (by decide)).trans rfl) (List.forall_mem_nil _)
      (fun v hv => ?_) (fun v hv => ?_)
    · by_cases hparams : "params" = name
      · subst hparams
        cases get?_sampleStep.symm.trans hv
        exact ⟨_, rfl⟩
      · cases (get?_sampleStep_of_ne hparams).symm.trans hv
    · rw [Step.predicate?, hop] at hv
      cases hv
  | store => exact .store hkind ((hget (by decide)).trans rfl) rfl ((hget (by decide)).trans rfl)

-- The settled arguments are those that are no malformed pointers in any plan.
theorem mem_settled_iff : name ∈ kind.settled ↔
    ∀ (plan : Plan) (s : Step) (v : Json), s ∈ plan.steps → s.kind? = some kind →
      s.args.get? name = some v → Pointer.hasShape v = true → v.IsPointer := by
  constructor
  · intro hname plan s v hs hkind hget
    exact (Plan.checked_of_mem hs).isPointer_of_settled hkind hname hget
  · intro h
    by_contra hname
    have hvalid : violations [kind.sampleStep name] = [] :=
      violationsFrom_eq_nil 0 (List.forall_mem_singleton.2 (checked_sampleStep hname))
    exact not_isPointer_selectorPair (h ⟨_, hvalid⟩ _ _ List.mem_cons_self
      (StepKind.ofToolName?_eq_some_iff.2 rfl) get?_sampleStep rfl)

theorem malformed_of_resolveArg (h : resolveArg place trace arg v =
    .error (.pointerField step name target field (.malformed cause))) :
    step = place ∧ name = arg ∧ Pointer.detect? v = some (.error cause) := by
  unfold resolveArg at h
  split at h
  · cases h
  · next hv =>
    cases h
    exact ⟨rfl, rfl, hv⟩
  · split at h
    · cases h
    · next fault hfault =>
      cases fault with
      | outOfRange | path => cases h
      | malformed => exact absurd hfault Pointer.resolve_ne_malformed

theorem malformed_of_resolveArgs (h : resolveArgs place s trace =
    .error (.pointerField step arg target field (.malformed cause))) :
    step = place ∧ ∃ v, s.args.get? arg = some v ∧ Pointer.detect? v = some (.error cause) := by
  obtain ⟨⟨name, v⟩, hmem, hv⟩ := exists_of_resolveEntries_error (map_eq_error_iff.1 h)
  obtain ⟨hstep, rfl, hmalformed⟩ := malformed_of_resolveArg hv
  exact ⟨hstep, v, Dict.get?_of_mem hmem, hmalformed⟩

theorem exists_resolveArgs_error (hget : s.args.get? arg = some v)
    (hv : Pointer.detect? v = some (.error cause)) : ∃ e, resolveArgs place s trace = .error e := by
  cases hargs : resolveArgs place s trace with
  | error e => exact ⟨e, rfl⟩
  | ok args =>
    obtain ⟨w, -, hw⟩ := get?_of_resolveArgs hargs hget
    simp only [resolveArg, hv] at hw
    cases hw

-- The settled arguments are those that are never a malformed pointer, in no plan. A step whose
-- arguments cannot be resolved for a malformed pointer has it in another argument, and a step that has
-- one there cannot have its arguments resolved, whatever the results so far.
theorem Plan.settled_exact :
    (∀ (kind : StepKind) (name : String), name ∈ kind.settled ↔
      ∀ (plan : Plan) (s : Step) (v : Json), s ∈ plan.steps → s.kind? = some kind →
        s.args.get? name = some v → Pointer.hasShape v = true → v.IsPointer) ∧
    ∀ (plan : Plan) (s : Step) (kind : StepKind), s ∈ plan.steps → s.kind? = some kind →
      ∀ (place : Nat) (trace : List Json),
        (∀ step arg target field cause, resolveArgs place s trace =
            .error (.pointerField step arg target field (.malformed cause)) →
          step = place ∧ arg ∉ kind.settled ∧
            ∃ v, s.args.get? arg = some v ∧ Pointer.hasShape v = true ∧ ¬ v.IsPointer) ∧
        ∀ arg v, s.args.get? arg = some v → Pointer.hasShape v = true → ¬ v.IsPointer →
          ∃ e, resolveArgs place s trace = .error e := by
  refine ⟨fun kind name => mem_settled_iff, fun plan s kind hs hkind place trace => ⟨?_, ?_⟩⟩
  · intro step arg target field cause h
    obtain ⟨hstep, v, hget, hv⟩ := malformed_of_resolveArgs h
    obtain ⟨hshape, hnot⟩ := Pointer.exists_malformed_iff.1 ⟨cause, hv⟩
    have hopen : arg ∉ kind.settled := fun hsettled =>
      hnot ((Plan.checked_of_mem hs).isPointer_of_settled hkind hsettled hget hshape)
    exact ⟨hstep, hopen, v, hget, hshape, hnot⟩
  · intro arg v hget hshape hnot
    obtain ⟨cause, hv⟩ := Pointer.exists_malformed_iff.2 ⟨hshape, hnot⟩
    exact exists_resolveArgs_error hget hv

def Plan.keepMalformed : Plan where
  steps :=
    [⟨"keep", "Store", .ofList [("action", .str "write"), ("key", .str "k"),
      ("value", .obj [("from", .ofInt (-1)), ("field", .str "x")])]⟩]
  valid := by decide

theorem Plan.settled_exact_keepMalformed :
    ∃ s ∈ keepMalformed.steps, s.kind? = some .store ∧ "value" ∉ StepKind.store.settled ∧
      ∃ e, resolveArgs 0 s [] = .error e := by
  have hnot : ¬ (Json.obj [("from", .ofInt (-1)), ("field", .str "x")]).IsPointer :=
    (Pointer.exists_malformed_iff.1 ⟨.step, rfl⟩).2
  obtain ⟨hmalformed, herror⟩ :=
    settled_exact.2 keepMalformed _ .store List.mem_cons_self rfl 0 []
  exact ⟨_, List.mem_cons_self, rfl, (hmalformed 0 "value" 0 "x" .step rfl).2.1,
    herror "value" _ rfl rfl hnot⟩

-- A plan may have a malformed pointer in it, and then it is the run that comes upon it.
theorem Plan.malformed_keepMalformed :
    ∃ s ∈ keepMalformed.steps, ∃ v, s.args.get? "value" = some v ∧ Pointer.hasShape v = true ∧
      ¬ v.IsPointer ∧
      resolveArgs 0 s [] = .error (.pointerField 0 "value" 0 "x" (.malformed .step)) :=
  ⟨_, List.mem_cons_self, _, rfl, rfl, (Pointer.exists_malformed_iff.1 ⟨.step, rfl⟩).2, rfl⟩

end Stepwise
