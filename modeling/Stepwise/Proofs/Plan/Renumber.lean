import Stepwise.Proofs.Plan.Dependencies
import Stepwise.Proofs.Plan.Checked
import Stepwise.Proofs.Pointer.Basic

namespace Stepwise

variable {f : Nat → Nat} {v : Json} {p : Pointer} {s : Step} {name : String}

def Pointer.renumber (f : Nat → Nat) (p : Pointer) : Pointer := { p with step := f p.step }

-- An object with another value for the member of a name.
def Json.setField (v : Json) (name : String) (w : Json) : Json :=
  match v with
  | .obj members => .obj (members.map fun m => if m.1 = name then (name, w) else m)
  | v => v

-- A pointer with the step changed that it names. Any other value stays as it is.
def Json.renumber (f : Nat → Nat) (v : Json) : Json :=
  match Pointer.wellFormed? v with
  | some p => v.setField "from" (.ofNat (f p.step))
  | none => v

-- The elements of a list renumbered, each for itself.
def Json.renumberItems (f : Nat → Nat) : Json → Json
  | .arr items => .arr (items.map (Json.renumber f))
  | v => v.renumber f

-- The inputs of a computation are renumbered one by one, any other argument as it is.
def Step.renumberArg (f : Nat → Nat) (s : Step) (name : String) (v : Json) : Json :=
  if s.kind? = some .compute ∧ name = "inputs" then v.renumberItems f else v.renumber f

-- A step with its pointers renumbered: those among its arguments, and where it computes those among
-- its inputs.
def Step.renumber (f : Nat → Nat) (s : Step) : Step :=
  { s with args := s.args.map (s.renumberArg f) }

namespace Json

theorem renumber_of_detect? (h : Pointer.detect? v = some (.ok p)) :
    v.renumber f = v.setField "from" (.ofNat (f p.step)) := by
  rw [renumber, Pointer.wellFormed?_eq_some_iff.2 h]

theorem renumber_of_forall_ne (h : ∀ p, Pointer.detect? v ≠ some (.ok p)) : v.renumber f = v := by
  unfold renumber Pointer.wellFormed?
  split
  · next p hp =>
    split at hp
    · next q hq => exact absurd hq (h q)
    · cases hp
  · rfl

theorem renumber_of_detect?_none (h : Pointer.detect? v = none) : v.renumber f = v :=
  renumber_of_forall_ne fun p hp => by
    rw [h] at hp
    cases hp

theorem detect?_renumber (hp : Pointer.detect? v = some (.ok p))
    (hlt : f p.step < 0x10000000000000000) :
    Pointer.detect? (v.renumber f) = some (.ok (p.renumber f)) := by
  obtain ⟨members, rfl, -, hperm⟩ := Pointer.detect?_eq_ok_iff.1 hp
  have hmap := hperm.map fun m : String × Json =>
    if m.1 = "from" then ("from", Json.ofNat (f p.step)) else m
  rw [renumber_of_detect? hp]
  exact Pointer.detect?_eq_ok_iff.2 ⟨_, rfl, hlt, hmap⟩

theorem renumber_of_fixed (h : ∀ p, Pointer.detect? v = some (.ok p) → f p.step = p.step) :
    v.renumber f = v := by
  by_cases hv : ∃ p, Pointer.detect? v = some (.ok p)
  · obtain ⟨p, hp⟩ := hv
    obtain ⟨members, rfl, -, hperm⟩ := Pointer.detect?_eq_ok_iff.1 hp
    rw [renumber_of_detect? hp, h p hp]
    rcases List.perm_pair.1 hperm with rfl | rfl
    · rfl
    · rfl
  · exact renumber_of_forall_ne fun p hp => hv ⟨p, hp⟩

theorem renumber_id : v.renumber id = v := renumber_of_fixed fun _ _ => rfl

theorem renumberItems_id : v.renumberItems id = v := by
  cases v with
  | arr items =>
    have hitems : items.map (renumber id) = items.map id :=
      List.map_congr_left fun v _ => renumber_id
    rw [renumberItems, hitems, List.map_id]
  | obj members => exact renumber_id
  | _ => rfl

end Json

namespace Step

theorem renumber_id : s.renumber id = s := by
  have hargs : s.args.map (s.renumberArg id) = s.args := by
    refine Dict.map_of_forall_eq fun e _ => ?_
    unfold renumberArg
    split
    · exact Json.renumberItems_id
    · exact Json.renumber_id
  rw [renumber, hargs]

theorem get?_renumber (h : ¬ (s.kind? = some .compute ∧ name = "inputs")) :
    (s.renumber f).args.get? name = (s.args.get? name).map (Json.renumber f) := by
  have harg : s.renumberArg f name = Json.renumber f := funext fun _ => if_neg h
  rw [renumber, Dict.get?_map, harg]

theorem get?_renumber_inputs (h : s.kind? = some .compute) :
    (s.renumber f).args.get? "inputs" = (s.args.get? "inputs").map (Json.renumberItems f) := by
  have harg : s.renumberArg f "inputs" = Json.renumberItems f := funext fun _ => if_pos ⟨h, rfl⟩
  rw [renumber, Dict.get?_map, harg]

theorem get?_renumber_of_literal (hinputs : name ≠ "inputs") (hget : s.args.get? name = some v)
    (hv : Pointer.detect? v = none) : (s.renumber f).args.get? name = some v := by
  rw [get?_renumber fun h => hinputs h.2, hget, Option.map_some, Json.renumber_of_detect?_none hv]

theorem get?_renumber_of_pointer (hinputs : name ≠ "inputs") (hget : s.args.get? name = some v)
    (hp : Pointer.detect? v = some (.ok p)) (hlt : f p.step < 0x10000000000000000) :
    ∃ w, (s.renumber f).args.get? name = some w ∧
      Pointer.detect? w = some (.ok (p.renumber f)) := by
  refine ⟨v.renumber f, ?_, Json.detect?_renumber hp hlt⟩
  rw [get?_renumber fun h => hinputs h.2, hget, Option.map_some]

end Step

theorem Dict.lookup_map_of_ne {α : Type} {name other : String} {w : α} {es : List (String × α)}
    (h : other ≠ name) :
    (es.map fun e => if e.1 = name then (name, w) else e).lookup other = es.lookup other := by
  induction es with
  | nil => rfl
  | cons e rest ih =>
    rw [List.map_cons, lookup_cons, lookup_cons, ih]
    by_cases he : e.1 = name
    · rw [if_pos he, if_neg h, if_neg (he ▸ h)]
    · rw [if_neg he]

-- An object stays an object, and no member but `from` is changed.
theorem Json.exists_members_renumber (members : List (String × Json)) :
    ∃ members', (Json.obj members).renumber f = .obj members' ∧
      ∀ name ≠ "from", field? members' name = field? members name := by
  by_cases hv : ∃ p, Pointer.detect? (.obj members) = some (.ok p)
  · obtain ⟨p, hp⟩ := hv
    exact ⟨_, renumber_of_detect? hp, fun name hname => Dict.lookup_map_of_ne hname⟩
  · exact ⟨members, renumber_of_forall_ne fun p hp => hv ⟨p, hp⟩, fun _ _ => rfl⟩

theorem Step.predicate?_renumber (hname : s.args.get? "op" = some (.str name)) :
    (s.renumber f).predicate? = s.predicate? := by
  have hparams : (s.renumber f).args.get? "params" =
      (s.args.get? "params").map (Json.renumber f) := get?_renumber (by simp)
  unfold predicate?
  rw [get?_renumber_of_literal (by decide) hname rfl, hname, hparams]
  congr 1
  cases s.args.get? "params" with
  | none => rfl
  | some v =>
    cases v with
    | obj members =>
      obtain ⟨members', hmembers, hfields⟩ := Json.exists_members_renumber (f := f) members
      rw [Option.map_some, hmembers]
      exact hfields "predicate" (by decide)
    | _ => rfl

theorem lt_of_detect? (hf : ∀ n < 0x10000000000000000, f n < 0x10000000000000000)
    (hp : Pointer.detect? v = some (.ok p)) : f p.step < 0x10000000000000000 := by
  obtain ⟨_, _, hlt, _⟩ := Pointer.detect?_eq_ok_iff.1 hp
  exact hf _ hlt

-- What was checked of a step holds of it after it is renumbered, as long as its pointers can name
-- their new steps.
theorem Checked.renumber (hf : ∀ n < 0x10000000000000000, f n < 0x10000000000000000)
    (h : Checked s) : Checked (s.renumber f) := by
  cases h with
  | search hkind hquery hlinks hk hallowed =>
    exact .search hkind (Step.get?_renumber_of_literal (by decide) hquery rfl)
      (Step.get?_renumber_of_literal (by decide) hlinks (detect?_of_toInt64? hk)) hk hallowed
  | fetch hkind hurl hparsed =>
    exact .fetch hkind (Step.get?_renumber_of_literal (by decide) hurl rfl) hparsed
  | parse hkind hraw hp hschema hselectors =>
    obtain ⟨w, hw, hwp⟩ := Step.get?_renumber_of_pointer (by decide) hraw hp (lt_of_detect? hf hp)
    refine .parse hkind hw hwp ?_ hselectors
    rw [Step.get?_renumber (by simp), hschema, Option.map_some,
      Json.renumber_of_forall_ne fun p => detect?_of_selectors hselectors]
  | @compute _ _ items hkind hname hop hinputs hitems hparams hpredicate =>
    have hinputs' : (s.renumber f).args.get? "inputs" = some (.arr (items.map (Json.renumber f))) := by
      rw [Step.get?_renumber_inputs hkind, hinputs]
      rfl
    refine .compute hkind (Step.get?_renumber_of_literal (by decide) hname rfl) hop hinputs' ?_ ?_ ?_
    · intro w hw
      obtain ⟨v, hv, rfl⟩ := List.mem_map.1 hw
      obtain ⟨p, hp⟩ := hitems v hv
      exact ⟨_, Json.detect?_renumber hp (lt_of_detect? hf hp)⟩
    · intro w hw
      rw [Step.get?_renumber (by simp)] at hw
      obtain ⟨v, hv, rfl⟩ := Option.map_eq_some_iff.1 hw
      obtain ⟨members, rfl⟩ := hparams v hv
      obtain ⟨members', hmembers, _⟩ := Json.exists_members_renumber (f := f) members
      exact ⟨members', hmembers⟩
    · rw [Step.predicate?_renumber hname]
      exact hpredicate
  | store hkind hname haction hkey =>
    exact .store hkind (Step.get?_renumber_of_literal (by decide) hname rfl) haction
      (Step.get?_renumber_of_literal (by decide) hkey rfl)

end Stepwise
