import Stepwise.Plan.Basic

namespace Stepwise

theorem StepKind.ofToolName?_eq_some_iff {name : String} {kind : StepKind} :
    StepKind.ofToolName? name = some kind ↔ kind.toolName = name := by
  constructor
  · intro h
    exact beq_iff_eq.1 (List.find?_some (p := fun k : StepKind => k.toolName == name) h)
  · rintro rfl
    cases kind <;> rfl

namespace Constraint

variable {args : Dict Json} {name : String}

theorem textFault?_eq_none_iff {test : String → Option Fault} :
    textFault? args name test = none ↔ ∃ t, args.get? name = some (.str t) ∧ test t = none := by
  unfold textFault?
  constructor
  · intro h
    split at h
    · cases h
    · next t hget => exact ⟨t, hget, h⟩
    · cases h
  · rintro ⟨t, hget, htest⟩
    rw [hget]
    exact htest

theorem pointerFault?_eq_none_iff {v : Json} :
    pointerFault? name v = none ↔ ∃ p, Pointer.detect? v = some (.ok p) := by
  unfold pointerFault?
  constructor
  · intro h
    split at h
    · next p hp => exact ⟨p, hp⟩
    · cases h
    · cases h
  · rintro ⟨p, hp⟩
    rw [hp]

theorem linkCountFault?_eq_none_iff {v : Json} :
    linkCountFault? v = none ↔ ∃ k, v.toInt64? = some k ∧ allowedLinks k = true := by
  unfold linkCountFault?
  constructor
  · intro h
    split at h
    · next k hk =>
      split at h
      · next hallowed => exact ⟨k, hk, hallowed⟩
      · cases h
    · cases h
  · rintro ⟨k, hk, hallowed⟩
    rw [hk]
    exact if_pos hallowed

theorem fault?_linkCount_eq_none_iff :
    linkCount.fault? args = none ↔
      ∃ v k, args.get? "top_k" = some v ∧ v.toInt64? = some k ∧ allowedLinks k = true := by
  simp only [fault?]
  constructor
  · intro h
    split at h
    · cases h
    · next v hget =>
      obtain ⟨k, hk⟩ := linkCountFault?_eq_none_iff.1 h
      exact ⟨v, k, hget, hk⟩
  · rintro ⟨v, k, hget, hk⟩
    rw [hget]
    exact linkCountFault?_eq_none_iff.2 ⟨k, hk⟩

theorem fault?_address_eq_none_iff :
    address.fault? args = none ↔
      ∃ url parsed, args.get? "url" = some (.str url) ∧ Url.parse url = .ok parsed := by
  refine textFault?_eq_none_iff.trans ?_
  constructor
  · rintro ⟨url, hget, htest⟩
    split at htest
    · next parsed hparsed => exact ⟨url, parsed, hget, hparsed⟩
    · cases htest
  · rintro ⟨url, parsed, hget, hparsed⟩
    exact ⟨url, hget, by rw [hparsed]⟩

theorem fault?_pointer_eq_none_iff :
    (pointer name).fault? args = none ↔
      ∃ v p, args.get? name = some v ∧ Pointer.detect? v = some (.ok p) := by
  simp only [fault?]
  constructor
  · intro h
    split at h
    · cases h
    · next v hget =>
      obtain ⟨p, hp⟩ := pointerFault?_eq_none_iff.1 h
      exact ⟨v, p, hget, hp⟩
  · rintro ⟨v, p, hget, hp⟩
    rw [hget]
    exact pointerFault?_eq_none_iff.2 ⟨p, hp⟩

theorem fault?_schema_eq_none_iff :
    schema.fault? args = none ↔ ∃ members, args.get? "schema" = some (.obj members) := by
  simp only [fault?]
  constructor
  · intro h
    split at h
    · cases h
    · next members hget => exact ⟨members, hget⟩
    · cases h
  · rintro ⟨members, hget⟩
    rw [hget]

theorem fault?_selector_eq_none_iff {v : Json} :
    (selector name v).fault? args = none ↔ ∃ t, v = .str t ∧ SelectorKind.isSelector t = true := by
  simp only [fault?]
  constructor
  · intro h
    split at h
    · next t =>
      split at h
      · next ht => exact ⟨t, rfl, ht⟩
      · cases h
    · cases h
  · rintro ⟨t, rfl, ht⟩
    exact if_pos ht

theorem fault?_operation_eq_none_iff :
    operation.fault? args = none ↔
      ∃ t op, args.get? "op" = some (.str t) ∧ Operation.ofName? t = some op := by
  refine textFault?_eq_none_iff.trans ?_
  constructor
  · rintro ⟨t, hget, htest⟩
    split at htest
    · next hsome =>
      obtain ⟨op, hop⟩ := Option.isSome_iff_exists.1 hsome
      exact ⟨t, op, hget, hop⟩
    · cases htest
  · rintro ⟨t, op, hget, hop⟩
    exact ⟨t, hget, by rw [hop]; rfl⟩

theorem fault?_inputs_eq_none_iff :
    inputs.fault? args = none ↔ ∃ items, args.get? "inputs" = some (.arr items) := by
  simp only [fault?]
  constructor
  · intro h
    split at h
    · cases h
    · next items hget => exact ⟨items, hget⟩
    · cases h
  · rintro ⟨items, hget⟩
    rw [hget]

theorem fault?_params_eq_none_iff :
    params.fault? args = none ↔ ∀ v, args.get? "params" = some v → ∃ members, v = .obj members := by
  simp only [fault?]
  constructor
  · intro h v hget
    rw [hget] at h
    cases v with
    | obj members => exact ⟨members, rfl⟩
    | _ => cases h
  · intro h
    cases hget : args.get? "params" with
    | none => rfl
    | some v =>
      obtain ⟨members, rfl⟩ := h v hget
      rfl

theorem fault?_predicate_eq_none_iff {v : Json} :
    (predicate v).fault? args = none ↔ ∃ p, Predicate.ofJson v = .ok p := by
  simp only [fault?]
  constructor
  · intro h
    split at h
    · next p hp => exact ⟨p, hp⟩
    · cases h
  · rintro ⟨p, hp⟩
    rw [hp]

theorem fault?_action_eq_none_iff :
    action.fault? args = none ↔
      ∃ t a, args.get? "action" = some (.str t) ∧ StoreAction.ofName? t = some a := by
  refine textFault?_eq_none_iff.trans ?_
  constructor
  · rintro ⟨t, hget, htest⟩
    split at htest
    · next hsome =>
      obtain ⟨a, ha⟩ := Option.isSome_iff_exists.1 hsome
      exact ⟨t, a, hget, ha⟩
    · cases htest
  · rintro ⟨t, a, hget, ha⟩
    exact ⟨t, hget, by rw [ha]; rfl⟩

theorem fault?_text_eq_none_iff :
    (text name).fault? args = none ↔ ∃ t, args.get? name = some (.str t) := by
  refine textFault?_eq_none_iff.trans ?_
  simp

end Constraint

-- What the arguments of a step satisfy once it has passed, one case for each kind of step.
inductive Checked (s : Step) : Prop
  | search {query : String} {links : Json} {k : Int} (hkind : s.kind? = some .search)
    (hquery : s.args.get? "query" = some (.str query)) (hlinks : s.args.get? "top_k" = some links)
    (hk : links.toInt64? = some k) (hallowed : allowedLinks k = true)
  | fetch {url : String} {parsed : Url} (hkind : s.kind? = some .fetch)
    (hurl : s.args.get? "url" = some (.str url)) (hparsed : Url.parse url = .ok parsed)
  | parse {raw : Json} {p : Pointer} {members : List (String × Json)}
    (hkind : s.kind? = some .parse) (hraw : s.args.get? "raw" = some raw)
    (hp : Pointer.detect? raw = some (.ok p)) (hschema : s.args.get? "schema" = some (.obj members))
    (hselectors : ∀ x ∈ members, ∃ t, x.2 = .str t ∧ SelectorKind.isSelector t = true)
  | compute {name : String} {op : Operation} {items : List Json} (hkind : s.kind? = some .compute)
    (hname : s.args.get? "op" = some (.str name)) (hop : Operation.ofName? name = some op)
    (hinputs : s.args.get? "inputs" = some (.arr items))
    (hitems : ∀ v ∈ items, ∃ p, Pointer.detect? v = some (.ok p))
    (hparams : ∀ v, s.args.get? "params" = some v → ∃ members, v = .obj members)
    (hpredicate : ∀ v, s.predicate? = some v → ∃ p, Predicate.ofJson v = .ok p)
  | store {name key : String} {action : StoreAction} (hkind : s.kind? = some .store)
    (hname : s.args.get? "action" = some (.str name)) (haction : StoreAction.ofName? name = some action)
    (hkey : s.args.get? "key" = some (.str key))

theorem Checked.exists_kind {s : Step} (h : Checked s) : ∃ kind, s.kind? = some kind := by
  cases h <;> exact ⟨_, by assumption⟩

theorem Step.tool_eq_of_kind? {s : Step} {kind : StepKind} (h : s.kind? = some kind) :
    s.tool = kind.toolName := (StepKind.ofToolName?_eq_some_iff.1 h).symm

theorem detect?_of_toInt64? {v : Json} {k : Int} (h : v.toInt64? = some k) :
    Pointer.detect? v = none := by
  cases v with
  | num _ => rfl
  | _ => cases h

-- An object of selectors is no pointer: what would be its step is a text.
theorem detect?_of_selectors {members : List (String × Json)} {p : Pointer}
    (h : ∀ x ∈ members, ∃ t, x.2 = .str t ∧ SelectorKind.isSelector t = true) :
    Pointer.detect? (.obj members) ≠ some (.ok p) := by
  intro hp
  have hstep : (Json.field? members "from").bind Json.toUInt64? = none := by
    cases hget : Json.field? members "from" with
    | none => rfl
    | some v =>
      obtain ⟨l, r, hmembers, _⟩ := List.lookup_eq_some_iff.1 hget
      obtain ⟨t, ht, _⟩ := h ("from", v) (by rw [hmembers]; simp)
      cases ht
      rfl
  simp only [Pointer.detect?, Pointer.ofMembers, hstep] at hp
  split at hp <;> cases hp

namespace Step

open Constraint

variable {s : Step}

theorem faults_eq_nil_iff : s.faults = [] ↔ ∀ c ∈ s.constraints, c.fault? s.args = none :=
  List.filterMap_eq_nil_iff

theorem schemaEntries_of_get? {members : List (String × Json)}
    (h : s.args.get? "schema" = some (.obj members)) : s.schemaEntries = members := by
  simp only [schemaEntries, h, Option.bind_some, Json.toObj?, Option.getD_some]

theorem inputItems_of_get? {items : List Json} (h : s.args.get? "inputs" = some (.arr items)) :
    s.inputItems = items := by
  simp only [inputItems, h, Option.bind_some, Json.toArr?, Option.getD_some]

theorem checked_of_search (hkind : s.kind? = some .search)
    (h : ∀ c ∈ s.constraints, c.fault? s.args = none) : Checked s := by
  simp only [constraints, hkind, List.forall_mem_cons] at h
  obtain ⟨hquery, hcount, -⟩ := h
  obtain ⟨query, hquery⟩ := fault?_text_eq_none_iff.1 hquery
  obtain ⟨links, k, hlinks, hk, hallowed⟩ := fault?_linkCount_eq_none_iff.1 hcount
  exact .search hkind hquery hlinks hk hallowed

theorem checked_of_fetch (hkind : s.kind? = some .fetch)
    (h : ∀ c ∈ s.constraints, c.fault? s.args = none) : Checked s := by
  simp only [constraints, hkind, List.forall_mem_cons] at h
  obtain ⟨url, parsed, hurl, hparsed⟩ := fault?_address_eq_none_iff.1 h.1
  exact .fetch hkind hurl hparsed

theorem checked_of_parse (hkind : s.kind? = some .parse)
    (h : ∀ c ∈ s.constraints, c.fault? s.args = none) : Checked s := by
  simp only [constraints, hkind, List.forall_mem_append, List.forall_mem_cons] at h
  obtain ⟨⟨hraw, hschema, -⟩, hentries⟩ := h
  obtain ⟨raw, p, hraw, hp⟩ := fault?_pointer_eq_none_iff.1 hraw
  obtain ⟨members, hschema⟩ := fault?_schema_eq_none_iff.1 hschema
  rw [schemaEntries_of_get? hschema] at hentries
  exact .parse hkind hraw hp hschema fun x hx =>
    fault?_selector_eq_none_iff.1 (hentries _ (List.mem_map.2 ⟨x, hx, rfl⟩))

theorem checked_of_compute (hkind : s.kind? = some .compute)
    (h : ∀ c ∈ s.constraints, c.fault? s.args = none) : Checked s := by
  simp only [constraints, hkind, List.forall_mem_append, List.forall_mem_cons] at h
  obtain ⟨⟨⟨⟨hop, hinputs, -⟩, hitems⟩, hparams, -⟩, hpredicate⟩ := h
  obtain ⟨name, op, hname, hop⟩ := fault?_operation_eq_none_iff.1 hop
  obtain ⟨items, hinputs⟩ := fault?_inputs_eq_none_iff.1 hinputs
  rw [inputItems_of_get? hinputs] at hitems
  refine .compute hkind hname hop hinputs (fun v hv => ?_) (fault?_params_eq_none_iff.1 hparams)
    (fun v hv => ?_)
  · obtain ⟨i, hi, rfl⟩ := List.mem_iff_getElem.1 hv
    exact pointerFault?_eq_none_iff.1
      (hitems _ (List.mem_map.2 ⟨(items[i], i), List.mem_zipIdx_iff_getElem?.2 (by simp), rfl⟩))
  · exact fault?_predicate_eq_none_iff.1 (hpredicate _ (by simp [hv]))

theorem checked_of_store (hkind : s.kind? = some .store)
    (h : ∀ c ∈ s.constraints, c.fault? s.args = none) : Checked s := by
  simp only [constraints, hkind, List.forall_mem_cons] at h
  obtain ⟨haction, hkey, -⟩ := h
  obtain ⟨name, action, hname, haction⟩ := fault?_action_eq_none_iff.1 haction
  obtain ⟨key, hkey⟩ := fault?_text_eq_none_iff.1 hkey
  exact .store hkind hname haction hkey

theorem checked_of_faults_eq_nil (h : s.faults = []) : Checked s := by
  rw [faults_eq_nil_iff] at h
  cases hkind : s.kind? with
  | none =>
    simp only [constraints, hkind, List.forall_mem_cons] at h
    cases h.1
  | some kind =>
    cases kind with
    | search => exact checked_of_search hkind h
    | fetch => exact checked_of_fetch hkind h
    | parse => exact checked_of_parse hkind h
    | compute => exact checked_of_compute hkind h
    | store => exact checked_of_store hkind h

theorem faults_eq_nil_of_checked (h : Checked s) : s.faults = [] := by
  rw [faults_eq_nil_iff]
  cases h with
  | search hkind hquery hlinks hk hallowed =>
    simp only [constraints, hkind, List.forall_mem_cons]
    exact ⟨fault?_text_eq_none_iff.2 ⟨_, hquery⟩,
      fault?_linkCount_eq_none_iff.2 ⟨_, _, hlinks, hk, hallowed⟩, List.forall_mem_nil _⟩
  | fetch hkind hurl hparsed =>
    simp only [constraints, hkind, List.forall_mem_cons]
    exact ⟨fault?_address_eq_none_iff.2 ⟨_, _, hurl, hparsed⟩, List.forall_mem_nil _⟩
  | parse hkind hraw hp hschema hselectors =>
    simp only [constraints, hkind, List.forall_mem_append, List.forall_mem_cons,
      schemaEntries_of_get? hschema, List.forall_mem_map]
    exact ⟨⟨fault?_pointer_eq_none_iff.2 ⟨_, _, hraw, hp⟩, fault?_schema_eq_none_iff.2 ⟨_, hschema⟩,
      List.forall_mem_nil _⟩, fun x hx => fault?_selector_eq_none_iff.2 (hselectors x hx)⟩
  | compute hkind hname hop hinputs hitems hparams hpredicate =>
    simp only [constraints, hkind, List.forall_mem_append, List.forall_mem_cons,
      inputItems_of_get? hinputs, List.forall_mem_map]
    refine ⟨⟨⟨⟨fault?_operation_eq_none_iff.2 ⟨_, _, hname, hop⟩,
      fault?_inputs_eq_none_iff.2 ⟨_, hinputs⟩, List.forall_mem_nil _⟩, ?_⟩,
      fault?_params_eq_none_iff.2 hparams, List.forall_mem_nil _⟩, ?_⟩
    · intro x hx
      exact pointerFault?_eq_none_iff.2 (hitems x.1 (List.fst_mem_of_mem_zipIdx hx))
    · intro c hc
      obtain ⟨v, hv, rfl⟩ := Option.map_eq_some_iff.1 (Option.mem_toList.1 hc)
      exact fault?_predicate_eq_none_iff.2 (hpredicate v hv)
  | store hkind hname haction hkey =>
    simp only [constraints, hkind, List.forall_mem_cons]
    exact ⟨fault?_action_eq_none_iff.2 ⟨_, _, hname, haction⟩,
      fault?_text_eq_none_iff.2 ⟨_, hkey⟩, List.forall_mem_nil _⟩

end Step

theorem faults_of_violationsFrom_eq_nil {ss : List Step} {place : Nat}
    (h : violationsFrom place ss = []) : ∀ s ∈ ss, s.faults = [] := by
  induction ss generalizing place with
  | nil => simp
  | cons s rest ih =>
    rw [violationsFrom, List.append_eq_nil_iff, List.map_eq_nil_iff] at h
    exact List.forall_mem_cons.2 ⟨h.1, ih h.2⟩

theorem violationsFrom_eq_nil {ss : List Step} (place : Nat) (h : ∀ s ∈ ss, Checked s) :
    violationsFrom place ss = [] := by
  induction ss generalizing place with
  | nil => rfl
  | cons s rest ih =>
    rw [List.forall_mem_cons] at h
    rw [violationsFrom, Step.faults_eq_nil_of_checked h.1, ih (place + 1) h.2]
    rfl

theorem Plan.checked_of_mem {plan : Plan} {s : Step} (h : s ∈ plan.steps) : Checked s :=
  Step.checked_of_faults_eq_nil (faults_of_violationsFrom_eq_nil plan.valid s h)

end Stepwise
