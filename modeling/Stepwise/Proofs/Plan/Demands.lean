import Mathlib.Data.List.Forall2
import Stepwise.Proofs.Plan.Checked
import Stepwise.Proofs.Plan.Kind
import Stepwise.Proofs.Pointer.Basic

namespace Stepwise

-- What a fault is about: the tool, an argument, or a part of an argument.
def Constraint.Fault.subject : Constraint.Fault → String
  | unknownTool name => name
  | missing name => name
  | notText name => name
  | linkCountRange _ => "top_k"
  | linkCountType => "top_k"
  | address _ _ => "url"
  | notPointer name => name
  | malformedPointer name _ => name
  | schemaType => "schema"
  | selectorType key => "schema." ++ key
  | selectorKind key _ => "schema." ++ key
  | unknownOperation _ => "op"
  | inputsType => "inputs"
  | paramsType => "params"
  | predicate _ => "params.predicate"
  | unknownAction _ => "action"

-- Something that a step has to satisfy: what it is about, and when it is met. Unlike a constraint it
-- says nothing of how it is checked.
structure Demand where
  subject : String
  Met : Prop

namespace Demand

-- A text that names a language and goes on with something on the same line.
def IsSelector (v : Json) : Prop :=
  ∃ mark ∈ ["css:", "xpath:", "regex:"], ∃ text : String,
    v = .str (mark ++ text) ∧ text ≠ "" ∧ '\n' ∉ text.toList

-- One demand for each entry of a schema, in the order of the entries' names.
def ofSchema : Option Json → List Demand
  | some (.obj members) => members.map fun (key, v) => ⟨"schema." ++ key, IsSelector v⟩
  | _ => []

def ofInputs : Option Json → List Demand
  | some (.arr items) =>
    items.zipIdx.map fun (v, place) => ⟨"inputs[" ++ toString place ++ "]", v.IsPointer⟩
  | _ => []

-- Only a filter has its predicate looked at.
def ofParams (op : Option Json) : Option Json → List Demand
  | some (.obj members) =>
    match op, Json.field? members "predicate" with
    | some (.str "filter"), some v => [⟨"params.predicate", ∃ p, Predicate.ofJson v = .ok p⟩]
    | _, _ => []
  | _ => []

end Demand

open Demand in
-- The demands on a step, by the tool that it names.
def Step.demands (s : Step) : List Demand :=
  match s.tool with
  | "Searcher" =>
    [⟨"query", ∃ t, s.args.get? "query" = some (.str t)⟩,
     ⟨"top_k", ∃ k, s.args.get? "top_k" = some (.ofInt k) ∧ 1 ≤ k ∧ k ≤ 20⟩]
  | "Fetcher" =>
    [⟨"url", ∃ url parsed, s.args.get? "url" = some (.str url) ∧ Url.parse url = .ok parsed⟩]
  | "Parser" =>
    [⟨"raw", ∃ v, s.args.get? "raw" = some v ∧ v.IsPointer⟩,
     ⟨"schema", ∃ members, s.args.get? "schema" = some (.obj members)⟩] ++
      ofSchema (s.args.get? "schema")
  | "Compute" =>
    [⟨"op", ∃ op ∈ ["normalize_prices", "margin_calculation", "filter", "sort", "merge"],
        s.args.get? "op" = some (.str op)⟩,
     ⟨"inputs", ∃ items, s.args.get? "inputs" = some (.arr items)⟩] ++
      ofInputs (s.args.get? "inputs") ++
      [⟨"params", ∀ v, s.args.get? "params" = some v → ∃ members, v = .obj members⟩] ++
      ofParams (s.args.get? "op") (s.args.get? "params")
  | "Store" =>
    [⟨"action", ∃ action ∈ ["write", "read"], s.args.get? "action" = some (.str action)⟩,
     ⟨"key", ∃ t, s.args.get? "key" = some (.str t)⟩]
  | name => [⟨name, False⟩]

theorem Demand.isSelector_iff {v : Json} :
    (∃ t, v = .str t ∧ SelectorKind.isSelector t = true) ↔ IsSelector v := by
  simp only [SelectorKind.isSelector_iff]
  constructor
  · rintro ⟨t, rfl, kind, text, ht, hne, hline⟩
    refine ⟨String.ofList kind.mark, ?_, String.ofList text, ?_, ?_, ?_⟩
    · cases kind <;> decide
    · rw [← String.ofList_append, ← ht, String.ofList_toList]
    · simpa using hne
    · rw [String.toList_ofList]
      exact hline
  · rintro ⟨mark, hmark, text, rfl, hne, hline⟩
    have hkind : ∃ kind : SelectorKind, mark.toList = kind.mark := by
      simp only [List.mem_cons, List.not_mem_nil, or_false] at hmark
      rcases hmark with rfl | rfl | rfl
      · exact ⟨.css, by decide⟩
      · exact ⟨.xpath, by decide⟩
      · exact ⟨.regex, by decide⟩
    obtain ⟨kind, hkind⟩ := hkind
    refine ⟨_, rfl, kind, text.toList, ?_, ?_, hline⟩
    · rw [String.toList_append, hkind]
    · simpa using hne

-- A constraint whose check says of a step's arguments what a demand says.
structure Constraint.Enforces (args : Dict Json) (c : Constraint) (d : Demand) : Prop where
  met_iff : c.fault? args = none ↔ d.Met
  subject : ∀ f, c.fault? args = some f → f.subject = d.subject

namespace Constraint

open Demand

variable {args : Dict Json} {name : String} {v : Json}

theorem subject_of_textFault? {test : String → Option Fault} {f : Fault}
    (htest : ∀ t f, test t = some f → f.subject = name) (h : textFault? args name test = some f) :
    f.subject = name := by
  unfold textFault? at h
  split at h
  · cases h
    rfl
  · exact htest _ _ h
  · cases h
    rfl

theorem subject_of_pointerFault? {f : Fault} (h : pointerFault? name v = some f) :
    f.subject = name := by
  unfold pointerFault? at h
  split at h <;> cases h <;> rfl

theorem enforces_text : Enforces args (text name) ⟨name, ∃ t, args.get? name = some (.str t)⟩ where
  met_iff := fault?_text_eq_none_iff
  subject _ h := subject_of_textFault? (fun _ _ h => by cases h) h

theorem enforces_linkCount :
    Enforces args linkCount
      ⟨"top_k", ∃ k, args.get? "top_k" = some (.ofInt k) ∧ 1 ≤ k ∧ k ≤ 20⟩ where
  met_iff := by
    rw [fault?_linkCount_eq_none_iff]
    simp only [allowedLinks, Bool.and_eq_true, decide_eq_true_eq]
    constructor
    · rintro ⟨v, k, hget, hk, hlow, hhigh⟩
      obtain ⟨rfl, -⟩ := Json.toInt64?_eq_some_iff.1 hk
      exact ⟨k, hget, hlow, hhigh⟩
    · rintro ⟨k, hget, hlow, hhigh⟩
      exact ⟨_, k, hget, Json.toInt64?_eq_some_iff.2 ⟨rfl, by omega⟩, hlow, hhigh⟩
  subject f h := by
    simp only [fault?] at h
    split at h
    · cases h
      rfl
    · unfold linkCountFault? at h
      split at h
      · split at h
        · cases h
        · cases h
          rfl
      · cases h
        rfl

theorem enforces_address :
    Enforces args address
      ⟨"url", ∃ url parsed, args.get? "url" = some (.str url) ∧ Url.parse url = .ok parsed⟩ where
  met_iff := fault?_address_eq_none_iff
  subject f h := by
    refine subject_of_textFault? (fun t f h => ?_) h
    split at h
    · cases h
    · cases h
      rfl

theorem enforces_pointer :
    Enforces args (pointer name) ⟨name, ∃ v, args.get? name = some v ∧ v.IsPointer⟩ where
  met_iff := by
    rw [fault?_pointer_eq_none_iff]
    simp only [← Pointer.exists_detect?_ok_iff, exists_and_left]
  subject f h := by
    simp only [fault?] at h
    split at h
    · cases h
      rfl
    · exact subject_of_pointerFault? h

theorem enforces_schema :
    Enforces args schema ⟨"schema", ∃ members, args.get? "schema" = some (.obj members)⟩ where
  met_iff := fault?_schema_eq_none_iff
  subject f h := by
    simp only [fault?] at h
    split at h <;> cases h <;> rfl

theorem enforces_selector :
    Enforces args (selector name v) ⟨"schema." ++ name, IsSelector v⟩ where
  met_iff := fault?_selector_eq_none_iff.trans isSelector_iff
  subject f h := by
    simp only [fault?] at h
    split at h
    · split at h
      · cases h
      · cases h
        rfl
    · cases h
      rfl

theorem enforces_operation :
    Enforces args operation
      ⟨"op", ∃ op ∈ ["normalize_prices", "margin_calculation", "filter", "sort", "merge"],
        args.get? "op" = some (.str op)⟩ where
  met_iff := by
    rw [fault?_operation_eq_none_iff]
    constructor
    · rintro ⟨t, op, hget, hop⟩
      rw [← Operation.ofName?_eq_some_iff.1 hop] at hget
      exact ⟨op.name, by cases op <;> decide, hget⟩
    · rintro ⟨t, ht, hget⟩
      obtain ⟨op, _, rfl⟩ := List.mem_map.1 (show t ∈ Operation.all.map Operation.name from ht)
      exact ⟨_, op, hget, Operation.ofName?_eq_some_iff.2 rfl⟩
  subject f h := by
    refine subject_of_textFault? (fun t f h => ?_) h
    split at h
    · cases h
    · cases h
      rfl

theorem enforces_inputs :
    Enforces args inputs ⟨"inputs", ∃ items, args.get? "inputs" = some (.arr items)⟩ where
  met_iff := fault?_inputs_eq_none_iff
  subject f h := by
    simp only [fault?] at h
    split at h <;> cases h <;> rfl

theorem enforces_input (place : Nat) :
    Enforces args (input place v) ⟨"inputs[" ++ toString place ++ "]", v.IsPointer⟩ where
  met_iff := pointerFault?_eq_none_iff.trans Pointer.exists_detect?_ok_iff
  subject _ h := subject_of_pointerFault? h

theorem enforces_params :
    Enforces args params
      ⟨"params", ∀ v, args.get? "params" = some v → ∃ members, v = .obj members⟩ where
  met_iff := fault?_params_eq_none_iff
  subject f h := by
    simp only [fault?] at h
    split at h
    all_goals cases h
    rfl

theorem enforces_predicate :
    Enforces args (predicate v) ⟨"params.predicate", ∃ p, Predicate.ofJson v = .ok p⟩ where
  met_iff := fault?_predicate_eq_none_iff
  subject f h := by
    simp only [fault?] at h
    split at h
    all_goals cases h
    rfl

theorem enforces_action :
    Enforces args action
      ⟨"action", ∃ action ∈ ["write", "read"], args.get? "action" = some (.str action)⟩ where
  met_iff := by
    rw [fault?_action_eq_none_iff]
    constructor
    · rintro ⟨t, a, hget, ha⟩
      exact ⟨t, StoreAction.mem_of_ofName? ha, hget⟩
    · rintro ⟨t, ht, hget⟩
      simp only [List.mem_cons, List.not_mem_nil, or_false] at ht
      rcases ht with rfl | rfl
      · exact ⟨_, .write, hget, rfl⟩
      · exact ⟨_, .read, hget, rfl⟩
  subject f h := by
    refine subject_of_textFault? (fun t f h => ?_) h
    split at h
    · cases h
    · cases h
      rfl

theorem enforces_knownTool : Enforces args (knownTool name) ⟨name, False⟩ where
  met_iff := iff_of_false (fun h => by cases h) id
  subject f h := by
    cases h
    rfl

end Constraint

theorem Operation.eq_filter_iff {op : Option Json} :
    (op.bind Json.toStr?).bind Operation.ofName? = some .filter ↔ op = some (.str "filter") := by
  simp only [Option.bind_eq_some_iff, Json.toStr?_eq_some_iff, Operation.ofName?_eq_some_iff]
  constructor
  · rintro ⟨_, ⟨_, hop, rfl⟩, rfl⟩
    exact hop
  · intro hop
    exact ⟨_, ⟨_, hop, rfl⟩, rfl⟩

namespace Step

open Constraint Demand List

variable {s : Step}

theorem enforces_schemaEntries :
    Forall₂ (Enforces s.args) (s.schemaEntries.map fun (key, v) => .selector key v)
      (ofSchema (s.args.get? "schema")) := by
  unfold schemaEntries
  rcases s.args.get? "schema" with - | v
  · exact .nil
  · cases v with
    | obj members =>
      exact forall₂_map_left_iff.2 (forall₂_map_right_iff.2 (forall₂_same.2 fun _ _ => enforces_selector))
    | _ => exact .nil

theorem enforces_inputItems :
    Forall₂ (Enforces s.args) (s.inputItems.zipIdx.map fun (v, place) => .input place v)
      (ofInputs (s.args.get? "inputs")) := by
  unfold inputItems
  rcases s.args.get? "inputs" with - | v
  · exact .nil
  · cases v with
    | arr items =>
      exact forall₂_map_left_iff.2 (forall₂_map_right_iff.2 (forall₂_same.2 fun x _ => enforces_input x.2))
    | _ => exact .nil

theorem enforces_predicate? :
    Forall₂ (Enforces s.args) (s.predicate?.map Constraint.predicate).toList
      (ofParams (s.args.get? "op") (s.args.get? "params")) := by
  unfold predicate?
  rcases s.args.get? "params" with - | params
  · simp [ofParams]
  · cases params with
    | obj members =>
      simp only [Option.bind_some, Json.toObj?, ofParams]
      split
      · next hop =>
        rw [Operation.eq_filter_iff.1 hop]
        rcases Json.field? members "predicate" with - | v
        · exact .nil
        · exact .cons enforces_predicate .nil
      · next hop =>
        split
        · next hop' _ => exact absurd (Operation.eq_filter_iff.2 hop') hop
        · exact .nil
    | _ => simp [ofParams, Json.toObj?]

-- One constraint for each demand, in the same order.
theorem enforces_demands (s : Step) : Forall₂ (Enforces s.args) s.constraints s.demands := by
  cases hkind : s.kind? with
  | none =>
    have hdemands : s.demands = [⟨s.tool, False⟩] := by
      unfold demands
      split
      case h_6 => rfl
      all_goals
        next htool =>
          rw [kind?, htool] at hkind
          cases hkind
    simp only [constraints, hkind, hdemands]
    exact .cons enforces_knownTool .nil
  | some kind =>
    have htool := tool_eq_of_kind? hkind
    cases kind with
    | search =>
      simp only [constraints, hkind, demands, htool, StepKind.toolName]
      exact .cons enforces_text (.cons enforces_linkCount .nil)
    | fetch =>
      simp only [constraints, hkind, demands, htool, StepKind.toolName]
      exact .cons enforces_address .nil
    | parse =>
      simp only [constraints, hkind, demands, htool, StepKind.toolName]
      exact rel_append (.cons enforces_pointer (.cons enforces_schema .nil)) enforces_schemaEntries
    | compute =>
      simp only [constraints, hkind, demands, htool, StepKind.toolName]
      exact rel_append (rel_append (rel_append
        (.cons enforces_operation (.cons enforces_inputs .nil)) enforces_inputItems)
        (.cons enforces_params .nil)) enforces_predicate?
    | store =>
      simp only [constraints, hkind, demands, htool, StepKind.toolName]
      exact .cons enforces_action (.cons enforces_text .nil)

end Step

end Stepwise
