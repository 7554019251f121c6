import Stepwise.Proofs.Run.Arguments
import Stepwise.Proofs.Tool.Basic
import Stepwise.Proofs.Tool.Builtin

namespace Stepwise

namespace Path.Fault

private theorem append_ne {head full : String} (rest : String)
    (h : ¬ head.toList <+: full.toList) : head ++ rest ≠ full := by
  rintro rfl
  rw [String.toList_append] at h
  exact h (List.prefix_append _ _)

private theorem append_append_ne {head full : String} (rest tail : String)
    (h : ¬ head.toList <+: full.toList) : head ++ rest ++ tail ≠ full := by
  rw [String.append_assoc]
  exact append_ne _ h

-- No fault of a path reads like a selector without a known mark.
theorem message_ne_unknownPrefix (fault : Path.Fault) :
    fault.message ≠ Extract.unknownPrefix := by
  cases fault with
  | notRooted => decide
  | unexpected rest => exact append_append_ne rest _ (by decide)
  | unbalanced => decide
  | unterminated => decide
  | notLast step => exact append_append_ne step _ (by decide)
  | attributeName name => exact append_append_ne name _ (by decide)
  | elementStep step => exact append_append_ne step _ (by decide)
  | afterCondition rest step =>
    show "unexpected \"" ++ rest ++ "\" in step \"" ++ step ++ "\"" ≠ _
    rw [String.append_assoc, String.append_assoc]
    exact append_append_ne rest _ (by decide)
  | positionZero => decide
  | oneArgument => decide
  | notAttribute => decide
  | notQuoted text => exact append_ne text (by decide)
  | unsupported condition => exact append_append_ne condition _ (by decide)
  | noElement => decide

end Path.Fault

namespace Search

-- A search for an allowed number of links finds them.
theorem result_ok (settings : SearchSettings) {args : Args} {query : String} {links : Json} {k : Int}
    (hquery : args.get? "query" = some (.str query)) (hlinks : args.get? "top_k" = some links)
    (hk : links.toInt64? = some k) (hallowed : allowedLinks k = true) :
    ∃ v, result settings args = .ok v := by
  unfold result
  rw [Args.requireText_of_get? hquery]
  simp only [Args.require, hlinks, bind, Except.bind, hk, hallowed, if_true]
  exact ⟨_, rfl⟩

end Search

namespace Keep

theorem result_ok (store : Store) {args : Args} {name key : String} {action : StoreAction}
    (hname : args.get? "action" = some (.str name))
    (haction : StoreAction.ofName? name = some action)
    (hkey : args.get? "key" = some (.str key)) : ∃ v, result args store = .ok v := by
  unfold result
  rw [Args.requireText_of_get? hname, Args.requireText_of_get? hkey]
  simp only [bind, Except.bind, haction]
  cases action <;> exact ⟨_, rfl⟩

end Keep

namespace Fetch

-- How the fetch of a well-formed URL can fail.
inductive Failure (url : String) : ToolError → Prop
  | notWeb : Failure url (.invalidArg name "url" (.notWebUrl url))
  | status (status : Nat) : Failure url (.httpStatus url status)
  | transport (detail : String) : Failure url (.transport url detail)

theorem failure_of_read {cap : Nat} {url : String} {reply : Reply} {e : ToolError}
    (h : read cap url reply = .error e) : Failure url e := by
  cases reply with
  | unreachable detail =>
    cases h
    exact .transport detail
  | answer status declared body =>
    simp only [read] at h
    split at h
    · cases h
      exact .status status
    · split at h
      · cases h
        exact .transport _
      · cases h

theorem failure_of_call {ν : Type} {settings : FetchSettings} {network : Network ν} {args : Args}
    {context : Context} {world left : World ν} {frame : Frame} {url : String} {parsed : Url}
    {e : ToolError} (hurl : args.get? "url" = some (.str url)) (hparsed : Url.parse url = .ok parsed)
    (h : (tool settings network).call args context world = (.error e, frame, left)) :
    Failure url e := by
  simp only [tool, Args.requireText_of_get? hurl, checkUrl, hparsed] at h
  split at h
  · next hcheck =>
    split at hcheck
    · cases hcheck
    · cases hcheck
      cases h
      exact .notWeb
  · exact failure_of_read (congrArg Prod.fst h)

end Fetch

namespace Extract

-- How looking for checked selectors can fail.
inductive Failure (members : List (String × Json)) : ToolError → Prop
  | raw : Failure members (.invalidArg name "raw" .notText)
  | selector {key text detail : String} (hmember : (key, .str text) ∈ members)
    (hdetail : detail ≠ unknownPrefix) : Failure members (.selector text detail)

theorem split?_isSome_of_isSelector {text : String} (h : SelectorKind.isSelector text = true) :
    (SelectorKind.split? text.toList).isSome = true := by
  unfold SelectorKind.isSelector at h
  split at h
  · next hsplit => rw [hsplit]; rfl
  · cases h

theorem readSelector_error {wording : Wording} {text : List Char} {detail : String}
    (h : readSelector wording text = .error detail) : detail ≠ unknownPrefix := by
  unfold readSelector at h
  split at h
  · cases h
  · cases h
    exact wording.selector_ne text

theorem find_error {wording : Wording} {page : Markup.Document} {raw text detail : String}
    (hselector : SelectorKind.isSelector text = true)
    (h : find wording page raw text = .error detail) : detail ≠ unknownPrefix := by
  have hsplit := split?_isSome_of_isSelector hselector
  unfold find at h
  split at h
  · rcases bind_eq_error_iff.1 h with hread | ⟨_, _, hpure⟩
    · exact readSelector_error hread
    · cases hpure
  · split at h
    · next fault _ =>
      cases h
      exact fault.message_ne_unknownPrefix
    · rcases bind_eq_error_iff.1 h with hread | ⟨_, _, hpure⟩
      · exact readSelector_error hread
      · cases hpure
  · split at h
    · cases h
    · cases h
      exact wording.pattern_ne _
  · next hnone =>
    rw [hnone] at hsplit
    cases hsplit

theorem failure_of_findAll {wording : Wording} {page : Markup.Document} {raw : String}
    {members all : List (String × Json)} {e : ToolError} (hall : members ⊆ all)
    (hselectors : ∀ x ∈ members, ∃ t, x.2 = .str t ∧ SelectorKind.isSelector t = true)
    (h : findAll wording page raw members = .error e) : Failure all e := by
  induction members with
  | nil => cases h
  | cons x rest ih =>
    obtain ⟨key, v⟩ := x
    rw [List.cons_subset] at hall
    rw [List.forall_mem_cons] at hselectors
    obtain ⟨⟨t, rfl, ht⟩, hrest⟩ := hselectors
    unfold findAll at h
    split at h
    · next detail hfind =>
      cases h
      exact .selector hall.1 (find_error ht hfind)
    · rcases bind_eq_error_iff.1 h with htail | ⟨_, _, hpure⟩
      · exact ih hall.2 hrest htail
      · cases hpure

theorem failure_of_result {wording : Wording} {args : Args} (trace : List Json) {raw : Json}
    {members : List (String × Json)} {e : ToolError} (hraw : args.get? "raw" = some raw)
    (hschema : args.get? "schema" = some (.obj members))
    (hselectors : ∀ x ∈ members, ∃ t, x.2 = .str t ∧ SelectorKind.isSelector t = true)
    (h : result wording args trace = .error e) : Failure members e := by
  unfold result at h
  rcases bind_eq_error_iff.1 h with htext | ⟨text, _, h⟩
  · rw [Args.requireText_error hraw htext]
    exact .raw
  · rw [Args.requireObject_of_get? hschema] at h
    rcases bind_eq_error_iff.1 (show findAll _ _ _ members >>= _ = _ from h) with
      hfind | ⟨_, _, hpure⟩
    · exact failure_of_findAll (List.Subset.refl _) hselectors hfind
    · cases hpure

end Extract

namespace Compute

-- How checked inputs can fail to have values.
inductive InputFailure (count : Nat) : ToolError → Prop
  | outOfRange {place : Nat} (target length : Nat) (hplace : place < count) :
    InputFailure count
      (.pointerOutOfRange name ("inputs[" ++ toString place ++ "]") target length)
  | pointer {place : Nat} (fault : Pointer.Fault) (hplace : place < count) :
    InputFailure count (.invalidArg name ("inputs[" ++ toString place ++ "]") (.pointer fault))

theorem inputFailure_of_resolveInput {trace : List Json} {place count : Nat} {v : Json}
    {e : ToolError} (hplace : place < count) (h : resolveInput trace place v = .error e) :
    InputFailure count e := by
  unfold resolveInput at h
  split at h
  · cases h
  · cases h
    exact .pointer _ hplace
  · split at h
    · cases h
    · cases h
      exact .outOfRange _ _ hplace
    · cases h
      exact .pointer _ hplace

theorem inputFailure_of_resolveInputsFrom {trace : List Json} {place count : Nat}
    {items : List Json} {e : ToolError} (hcount : place + items.length ≤ count)
    (h : resolveInputsFrom trace place items = .error e) : InputFailure count e := by
  induction items generalizing place with
  | nil => cases h
  | cons v rest ih =>
    rw [List.length_cons] at hcount
    unfold resolveInputsFrom at h
    split at h
    · next hv =>
      cases h
      exact inputFailure_of_resolveInput (by omega) hv
    · exact ih (by omega) (map_eq_error_iff.1 h)

theorem filter_ok {inputs : List Json} {params : List (String × Json)} {document : Json}
    {p : Predicate} (hdocument : Json.field? params "predicate" = some document)
    (hp : Predicate.ofJson document = .ok p) : ∃ v, filter inputs params = .ok v := by
  simp only [filter, hdocument, hp]
  exact ⟨_, rfl⟩

end Compute

-- A step that filters by a predicate of its own, not one that a pointer may bring.
def Step.HoldsPredicate (s : Step) : Prop :=
  ∃ name members, s.args.get? "op" = some (.str name) ∧ Operation.ofName? name = some .filter ∧
    s.args.get? "params" = some (.obj members) ∧ Pointer.hasShape (.obj members) = false ∧
    (Json.field? members "predicate").isSome = true

namespace Compute

-- How a checked compute step can fail.
inductive Failure (s : Step) : ToolError → Prop
  | input {e : ToolError} (h : InputFailure s.inputItems.length e) : Failure s e
  | params {v : Json} {p : Pointer} (hparams : s.args.get? "params" = some v)
    (hp : Pointer.detect? v = some (.ok p)) : Failure s (.invalidArg name "params" .notObject)
  | operation {op : Operation} (fault : ComputeFault) (hpredicate : ¬ s.HoldsPredicate) :
    Failure s (.compute op.name fault)

-- The parameters that an operation gets: the step's own ones, unless a pointer stands for them.
theorem params_of_resolveArgs {place : Nat} {s : Step} {trace : List Json} {args : Args}
    (hargs : resolveArgs place s trace = .ok args)
    (hparams : ∀ v, s.args.get? "params" = some v → ∃ members, v = .obj members) :
    (args.get? "params" = none ∧ s.args.get? "params" = none) ∨
      (∃ members, args.get? "params" = some (.obj members) ∧
        s.args.get? "params" = some (.obj members)) ∨
      ∃ v w p, args.get? "params" = some w ∧ s.args.get? "params" = some v ∧
        Pointer.detect? v = some (.ok p) := by
  cases hget : s.args.get? "params" with
  | none => exact .inl ⟨get?_of_resolveArgs_none hargs hget, rfl⟩
  | some v =>
    obtain ⟨w, hw, hres⟩ := get?_of_resolveArgs hargs hget
    obtain ⟨members, rfl⟩ := hparams v hget
    refine .inr ?_
    unfold resolveArg at hres
    split at hres
    · cases hres
      exact .inl ⟨members, hw, rfl⟩
    · cases hres
    · next p hp => exact .inr ⟨_, w, p, hw, rfl, hp⟩

theorem predicate?_of_holdsPredicate {s : Step} (h : s.HoldsPredicate) :
    ∃ members document, s.args.get? "params" = some (.obj members) ∧
      Pointer.detect? (.obj members) = none ∧
      Json.field? members "predicate" = some document ∧ s.predicate? = some document := by
  obtain ⟨name, members, hname, hop, hparams, hshape, hsome⟩ := h
  obtain ⟨document, hdocument⟩ := Option.isSome_iff_exists.1 hsome
  refine ⟨members, document, hparams, ?_, hdocument, ?_⟩
  · simp [Pointer.detect?, hshape]
  · simp [Step.predicate?, hname, Json.toStr?, hop, hparams, Json.toObj?, hdocument]

-- `hown` says that the operation gets the step's own parameters unless they are a pointer.
theorem failure_of_apply {s : Step} {n : String} {op : Operation} {inputs : List Json}
    {params : List (String × Json)} {e : ToolError} (hname : s.args.get? "op" = some (.str n))
    (hop : Operation.ofName? n = some op)
    (hpredicate : ∀ v, s.predicate? = some v → ∃ p, Predicate.ofJson v = .ok p)
    (hown : ∀ own, s.args.get? "params" = some (.obj own) → Pointer.detect? (.obj own) = none →
      params = own)
    (h : (match apply op inputs params with
      | .ok v => pure v
      | .error fault => throw (ToolError.compute op.name fault)) = Except.error e) :
    Failure s e := by
  split at h
  · cases h
  · next fault hfault =>
    cases h
    refine .operation fault fun hholds => ?_
    obtain ⟨own, document, hparams, hdetect, hdocument, hown?⟩ := predicate?_of_holdsPredicate hholds
    obtain ⟨p, hp⟩ := hpredicate document hown?
    obtain ⟨n', _, hname', hfilter, _⟩ := hholds
    rw [hname] at hname'
    cases hname'
    rw [hop] at hfilter
    cases hfilter
    rw [hown own hparams hdetect] at hfault
    obtain ⟨v, hv⟩ := filter_ok hdocument hp
    rw [apply, hv] at hfault
    cases hfault

theorem failure_of_result {place : Nat} {s : Step} {trace : List Json} {args : Args} {n : String}
    {op : Operation} {items : List Json} {e : ToolError}
    (hargs : resolveArgs place s trace = .ok args)
    (hname : s.args.get? "op" = some (.str n)) (hop : Operation.ofName? n = some op)
    (hinputs : s.args.get? "inputs" = some (.arr items))
    (hparams : ∀ v, s.args.get? "params" = some v → ∃ members, v = .obj members)
    (hpredicate : ∀ v, s.predicate? = some v → ∃ p, Predicate.ofJson v = .ok p)
    (h : result args trace = .error e) : Failure s e := by
  have hname' := get?_of_resolveArgs_literal hargs hname rfl
  have hinputs' := get?_of_resolveArgs_literal hargs hinputs rfl
  unfold result at h
  rw [Args.requireText_of_get? hname'] at h
  simp only [bind, Except.bind, hop, resolveInputs, hinputs'] at h
  split at h
  · next hfailed =>
    cases h
    rw [← Step.inputItems_of_get? hinputs] at hfailed
    exact .input (inputFailure_of_resolveInputsFrom (Nat.le_of_eq (Nat.zero_add _)) hfailed)
  · rcases params_of_resolveArgs hargs hparams with
      ⟨hnone, hown⟩ | ⟨members, hsome, hown⟩ | ⟨v, w, p, hw, hown, hp⟩
    · rw [hnone] at h
      refine failure_of_apply hname hop hpredicate (fun own hobj _ => ?_) h
      rw [hown] at hobj
      cases hobj
    · rw [hsome] at h
      refine failure_of_apply hname hop hpredicate (fun own hobj _ => ?_) h
      rw [hown] at hobj
      cases hobj
      rfl
    · rw [hw] at h
      cases w with
      | obj members =>
        refine failure_of_apply hname hop hpredicate (fun own hobj hnone => ?_) h
        rw [hown] at hobj
        cases hobj
        rw [hp] at hnone
        cases hnone
      | _ =>
        cases h
        exact .params hown hp

end Compute

end Stepwise
