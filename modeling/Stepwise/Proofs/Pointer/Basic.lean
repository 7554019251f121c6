import Mathlib.Data.List.Permutation
import Stepwise.Pointer.Basic
import Stepwise.Proofs.Dict
import Stepwise.Proofs.Json

namespace Stepwise

-- An object whose members are exactly `from`, a number of 64 bits, and `field`, a text.
def Json.IsPointer (v : Json) : Prop :=
  ∃ (members : List (String × Json)) (n : Nat) (field : String), v = .obj members ∧
    members.Perm [("from", .ofNat n), ("field", .str field)] ∧ n < 0x10000000000000000

namespace Pointer

variable {members : List (String × Json)} {x y v : Json} {p : Pointer} {results : List Json}

-- Two members of which one is `from` and one is `field` are no others.
theorem perm_members_iff :
    members.Perm [("from", x), ("field", y)] ↔
      members.length = 2 ∧ Json.field? members "from" = some x ∧
        Json.field? members "field" = some y := by
  constructor
  · intro h
    rcases List.perm_pair.1 h with rfl | rfl
    · exact ⟨rfl, rfl, rfl⟩
    · exact ⟨rfl, rfl, rfl⟩
  · rintro ⟨hlength, hx, hy⟩
    obtain ⟨⟨a, u⟩, ⟨b, w⟩, rfl⟩ := List.length_eq_two.1 hlength
    simp only [Json.field?, Dict.lookup_cons, List.lookup_nil] at hx hy
    rw [List.perm_pair]
    grind

theorem ofMembers_eq_ok_iff :
    ofMembers members = .ok p ↔
      p.step < 0x10000000000000000 ∧ Json.field? members "from" = some (.ofNat p.step) ∧
        Json.field? members "field" = some (.str p.field) := by
  constructor
  · intro h
    unfold ofMembers at h
    split at h
    · cases h
    · cases h
    · next n t hn ht =>
      cases h
      obtain ⟨u, hu, hun⟩ := Option.bind_eq_some_iff.1 hn
      obtain ⟨w, hw, hwt⟩ := Option.bind_eq_some_iff.1 ht
      obtain ⟨rfl, hlt⟩ := Json.toUInt64?_eq_some_iff.1 hun
      cases Json.toStr?_eq_some_iff.1 hwt
      exact ⟨hlt, hu, hw⟩
  · rintro ⟨hlt, hn, ht⟩
    have hn' : (Json.field? members "from").bind Json.toUInt64? = some p.step :=
      Option.bind_eq_some_iff.2 ⟨_, hn, Json.toUInt64?_eq_some_iff.2 ⟨rfl, hlt⟩⟩
    have ht' : (Json.field? members "field").bind Json.toStr? = some p.field :=
      Option.bind_eq_some_iff.2 ⟨_, ht, rfl⟩
    rw [ofMembers, hn', ht']

theorem detect?_eq_ok_iff :
    detect? v = some (.ok p) ↔
      ∃ members, v = .obj members ∧ p.step < 0x10000000000000000 ∧
        members.Perm [("from", .ofNat p.step), ("field", .str p.field)] := by
  simp only [perm_members_iff]
  constructor
  · intro h
    unfold detect? at h
    split at h
    · next members =>
      split at h
      · next hshape =>
        obtain ⟨hlt, hn, ht⟩ := ofMembers_eq_ok_iff.1 (Option.some.inj h)
        simp only [hasShape, Bool.and_eq_true, beq_iff_eq] at hshape
        exact ⟨members, rfl, hlt, hshape.1.1, hn, ht⟩
      · cases h
    · cases h
  · rintro ⟨members, rfl, hlt, hlength, hn, ht⟩
    have hshape : hasShape (.obj members) = true := by simp [hasShape, hlength, hn, ht]
    rw [detect?, if_pos hshape, ofMembers_eq_ok_iff.2 ⟨hlt, hn, ht⟩]

theorem exists_detect?_ok_iff : (∃ p, detect? v = some (.ok p)) ↔ v.IsPointer := by
  simp only [detect?_eq_ok_iff]
  constructor
  · rintro ⟨p, members, rfl, hlt, hperm⟩
    exact ⟨members, p.step, p.field, rfl, hperm, hlt⟩
  · rintro ⟨members, n, field, rfl, hperm, hlt⟩
    exact ⟨⟨n, field⟩, members, rfl, hlt, hperm⟩

theorem detect?_eq_none_iff : detect? v = none ↔ hasShape v = false := by
  cases v with
  | obj members => simp [detect?]
  | _ => exact ⟨fun _ => rfl, fun _ => rfl⟩

-- A value is reported as malformed where it has the shape of a pointer and is none.
theorem exists_malformed_iff :
    (∃ cause, detect? v = some (.error cause)) ↔ hasShape v = true ∧ ¬ v.IsPointer := by
  rw [← exists_detect?_ok_iff, ← Bool.not_eq_false, ← detect?_eq_none_iff]
  cases detect? v with
  | none => simp
  | some r => cases r <;> simp

theorem resolve_ne_malformed {cause : Malformed} : p.resolve results ≠ .error (.malformed cause) := by
  intro h
  unfold resolve at h
  split at h
  · cases h
  · split at h <;> cases h

theorem lt_length_of_resolve (h : p.resolve results = .ok v) : p.step < results.length := by
  unfold resolve at h
  split at h
  · cases h
  · next root hroot => exact (List.getElem?_eq_some_iff.1 hroot).1

theorem outOfRange_of_resolve {target length : Nat}
    (h : p.resolve results = .error (.outOfRange target length)) :
    p.step = target ∧ results.length ≤ target := by
  unfold resolve at h
  split at h
  · next hnone =>
    cases h
    exact ⟨rfl, List.getElem?_eq_none_iff.1 hnone⟩
  · split at h <;> cases h

end Pointer

end Stepwise
