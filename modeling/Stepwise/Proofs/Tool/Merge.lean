import Stepwise.Proofs.Dict
import Stepwise.Proofs.Except
import Stepwise.Tool.Compute

namespace Stepwise

namespace Json

def IsObject (v : Json) : Prop := ∃ members, v = .obj members

-- The value of a name in an object. Other values have no members.
def member? (name : String) : Json → Option Json
  | .obj members => (Dict.ofList members).get? name
  | _ => none

end Json

namespace Compute

variable {inputs left right : List Json} {merged d : Dict Json} {place : Nat} {fault : ComputeFault}
  {v : Json}

theorem forall_isObject_iff :
    (∀ v ∈ inputs, v.IsObject) ↔ ∃ objects : List (List (String × Json)), inputs = objects.map .obj := by
  constructor
  · intro h
    induction inputs with
    | nil => exact ⟨[], rfl⟩
    | cons v rest ih =>
      obtain ⟨⟨members, rfl⟩, hrest⟩ := List.forall_mem_cons.1 h
      obtain ⟨objects, rfl⟩ := ih hrest
      exact ⟨members :: objects, rfl⟩
  · rintro ⟨objects, rfl⟩
    exact List.forall_mem_map.2 fun members _ => ⟨members, rfl⟩

-- What is merged so far takes in the members of the objects, one object after the other.
theorem mergeFrom_eq_ok_iff :
    mergeFrom place merged inputs = .ok d ↔
      ∃ objects : List (List (String × Json)), inputs = objects.map .obj ∧
        d = merged.insertAll objects.flatten := by
  induction inputs generalizing place merged with
  | nil =>
    constructor
    · intro h
      cases h
      exact ⟨[], rfl, rfl⟩
    · rintro ⟨objects, hnil, rfl⟩
      obtain rfl := List.map_eq_nil_iff.1 hnil.symm
      rfl
  | cons v rest ih =>
    cases v with
    | obj members =>
      rw [mergeFrom, ih]
      constructor
      · rintro ⟨objects, rfl, rfl⟩
        exact ⟨members :: objects, rfl, by rw [List.flatten_cons, Dict.insertAll_append]⟩
      · rintro ⟨objects, hinputs, rfl⟩
        obtain ⟨members', objects, rfl, hmembers, rfl⟩ := List.map_eq_cons_iff.1 hinputs.symm
        cases hmembers
        exact ⟨objects, rfl, by rw [List.flatten_cons, Dict.insertAll_append]⟩
    | null | bool _ | num _ | str _ | arr _ =>
      refine iff_of_false (by simp [mergeFrom]) ?_
      rintro ⟨objects, hinputs, -⟩
      obtain ⟨members, _, -, hmembers, -⟩ := List.map_eq_cons_iff.1 hinputs.symm
      cases hmembers

-- The first value that is no object is at fault, wherever the counting began.
theorem exists_of_mergeFrom_error (h : mergeFrom place merged inputs = .error fault) :
    ∃ before v after, inputs = before ++ v :: after ∧ (∀ u ∈ before, u.IsObject) ∧
      ¬ v.IsObject ∧ fault = .notAnObject (place + before.length) v.typeName := by
  induction inputs generalizing place merged with
  | nil => cases h
  | cons v rest ih =>
    cases v with
    | obj members =>
      obtain ⟨before, v, after, rfl, hbefore, hv, rfl⟩ := ih h
      refine ⟨.obj members :: before, v, after, rfl, ?_, hv, ?_⟩
      · exact List.forall_mem_cons.2 ⟨⟨members, rfl⟩, hbefore⟩
      · rw [List.length_cons, Nat.add_assoc, Nat.add_comm 1]
    | null | bool _ | num _ | str _ | arr _ =>
      cases h
      exact ⟨[], _, rest, rfl, by simp, by rintro ⟨_, ⟨⟩⟩, rfl⟩

theorem merge_eq_ok_iff :
    merge inputs = .ok v ↔ inputs ≠ [] ∧ ∃ objects : List (List (String × Json)),
      inputs = objects.map .obj ∧ v = .ofDict (.ofList objects.flatten) := by
  unfold merge
  by_cases hne : inputs = []
  · simp [hne]
  · rw [if_neg (by simpa using hne), map_eq_ok_iff]
    simp only [mergeFrom_eq_ok_iff]
    constructor
    · rintro ⟨d, ⟨objects, hinputs, rfl⟩, rfl⟩
      exact ⟨hne, objects, hinputs, rfl⟩
    · rintro ⟨-, objects, hinputs, rfl⟩
      exact ⟨_, ⟨objects, hinputs, rfl⟩, rfl⟩

theorem exists_merge_iff : (∃ v, merge inputs = .ok v) ↔ inputs ≠ [] ∧ ∀ v ∈ inputs, v.IsObject := by
  simp only [merge_eq_ok_iff, forall_isObject_iff]
  constructor
  · rintro ⟨_, hne, objects, hinputs, -⟩
    exact ⟨hne, objects, hinputs⟩
  · rintro ⟨hne, objects, hinputs⟩
    exact ⟨_, hne, objects, hinputs, rfl⟩

theorem exists_of_merge_error (hne : inputs ≠ []) (h : merge inputs = .error fault) :
    ∃ before v after, inputs = before ++ v :: after ∧ (∀ u ∈ before, u.IsObject) ∧
      ¬ v.IsObject ∧ fault = .notAnObject before.length v.typeName := by
  rw [merge, if_neg (by simpa using hne), map_eq_error_iff] at h
  simpa only [Nat.zero_add] using exists_of_mergeFrom_error h

-- A name has the value that the last object with it gives it.
theorem get?_ofList_flatten (objects : List (List (String × Json))) (name : String) :
    (Dict.ofList objects.flatten).get? name =
      (objects.map Json.obj).reverse.findSome? (Json.member? name) := by
  induction objects using List.reverseRecOn with
  | nil => rfl
  | append_singleton objects members ih =>
    have hflatten : (objects ++ [members]).flatten = objects.flatten ++ members := by simp
    have hlast : (Json.obj members).member? name = (Dict.ofList members).get? name := rfl
    rw [hflatten, Dict.ofList_append, Dict.get?_insertAll, ih, List.map_append,
      List.reverse_append, List.map_singleton, List.reverse_singleton, List.singleton_append,
      List.findSome?_cons, hlast]
    cases (Dict.ofList members).get? name <;> rfl

-- The names are those of all inputs, each with its value in the last input that has it.
structure LastWins (inputs : List Json) (d : Dict Json) : Prop where
  keys : ∀ name, name ∈ d.keys ↔ ∃ v ∈ inputs, (v.member? name).isSome
  values : ∀ name w, d.get? name = some w ↔ ∃ before last after, inputs = before ++ last :: after ∧
    last.member? name = some w ∧ ∀ v ∈ after, v.member? name = none

theorem lastWins_of_findSome? (h : ∀ name, d.get? name = inputs.reverse.findSome? (Json.member? name)) :
    LastWins inputs d := by
  refine ⟨fun name => ?_, fun name w => ?_⟩
  · rw [Dict.mem_keys_iff, ← Option.isSome_iff_exists, h, List.findSome?_isSome_iff]
    simp only [List.mem_reverse]
  · rw [h, List.findSome?_eq_some_iff]
    constructor
    · rintro ⟨after, last, before, hreverse, hlast, hafter⟩
      refine ⟨before.reverse, last, after.reverse, ?_, hlast, fun v hv => hafter v (by simpa using hv)⟩
      simpa using congrArg List.reverse hreverse
    · rintro ⟨before, last, after, rfl, hlast, hafter⟩
      exact ⟨after.reverse, last, before.reverse, by simp, hlast, fun v hv => hafter v (by simpa using hv)⟩

-- Merging the merges of two parts puts the members of the second behind those of the first.
theorem merge_append (hleft : left ≠ []) (hright : right ≠ []) :
    merge (left ++ right) = .ok v ↔
      ∃ a b, merge left = .ok a ∧ merge right = .ok b ∧ merge [a, b] = .ok v := by
  have hpair (first second : List (List (String × Json))) :
      merge [.ofDict (.ofList first.flatten), .ofDict (.ofList second.flatten)] =
        .ok (.ofDict (.ofList (first ++ second).flatten)) := by
    refine merge_eq_ok_iff.2 ⟨by simp, [(Dict.ofList first.flatten).entries,
      (Dict.ofList second.flatten).entries], rfl, ?_⟩
    rw [List.flatten_append, ← Dict.ofList_append_entries]
    simp
  constructor
  · intro h
    obtain ⟨-, objects, hobjects, rfl⟩ := merge_eq_ok_iff.1 h
    obtain ⟨first, second, rfl, hfirst, hsecond⟩ := List.append_eq_map_iff.1 hobjects
    exact ⟨_, _, merge_eq_ok_iff.2 ⟨hleft, first, hfirst.symm, rfl⟩,
      merge_eq_ok_iff.2 ⟨hright, second, hsecond.symm, rfl⟩, hpair first second⟩
  · rintro ⟨a, b, ha, hb, h⟩
    obtain ⟨-, first, rfl, rfl⟩ := merge_eq_ok_iff.1 ha
    obtain ⟨-, second, rfl, rfl⟩ := merge_eq_ok_iff.1 hb
    rw [hpair] at h
    cases h
    exact merge_eq_ok_iff.2 ⟨List.append_ne_nil_of_left_ne_nil hleft _, first ++ second, by simp, rfl⟩

-- Objects are merged whole, the later ones win, and it does not matter how they are grouped.
theorem merge_lastWins (inputs : List Json) (params : List (String × Json)) :
    ((∃ v, apply .merge inputs params = .ok v) ↔ inputs ≠ [] ∧ ∀ v ∈ inputs, v.IsObject) ∧
    (∀ v, apply .merge inputs params = .ok v → ∃ d, v = .ofDict d ∧ LastWins inputs d) ∧
    (inputs ≠ [] → ∀ fault, apply .merge inputs params = .error fault →
      ∃ before v after, inputs = before ++ v :: after ∧ (∀ u ∈ before, u.IsObject) ∧
        ¬ v.IsObject ∧ fault = .notAnObject before.length v.typeName) ∧
    ∀ left right, inputs = left ++ right → left ≠ [] → right ≠ [] →
      ∀ v, apply .merge inputs params = .ok v ↔
        ∃ a b, apply .merge left params = .ok a ∧ apply .merge right params = .ok b ∧
          apply .merge [a, b] params = .ok v := by
  refine ⟨exists_merge_iff, fun v h => ?_, fun hne fault h => exists_of_merge_error hne h, ?_⟩
  · obtain ⟨-, objects, rfl, rfl⟩ := merge_eq_ok_iff.1 h
    exact ⟨_, rfl, lastWins_of_findSome? (get?_ofList_flatten objects)⟩
  · rintro left right rfl hleft hright v
    exact merge_append hleft hright

end Compute

end Stepwise
