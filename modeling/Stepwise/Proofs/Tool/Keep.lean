import Stepwise.Proofs.Json
import Stepwise.Proofs.Run.Arguments
import Stepwise.Proofs.Tool.Basic
import Stepwise.Proofs.Plan.Checked
import Stepwise.Tool.Keep

namespace Stepwise

-- What a step does with which key of the store, if it is a step of the store tool.
def Step.access? (s : Step) : Option (StoreAction × String) :=
  match s.kind?, s.args.get? "action", s.args.get? "key" with
  | some .store, some (.str name), some (.str key) => (StoreAction.ofName? name).map (·, key)
  | _, _, _ => none

variable {place : Nat} {s : Step} {results : List Json} {args : Args} {store : Store}
  {action : StoreAction} {key : String}

theorem Step.access?_eq_some_iff :
    s.access? = some (action, key) ↔ s.kind? = some .store ∧
      (∃ name, s.args.get? "action" = some (.str name) ∧ StoreAction.ofName? name = some action) ∧
      s.args.get? "key" = some (.str key) := by
  unfold access?
  constructor
  · intro h
    split at h
    · next name key' hkind hname hkey =>
      obtain ⟨action', haction, hpair⟩ := Option.map_eq_some_iff.1 h
      cases hpair
      exact ⟨hkind, ⟨name, hname, haction⟩, hkey⟩
    · cases h
  · rintro ⟨hkind, ⟨name, hname, haction⟩, hkey⟩
    simp only [hkind, hname, hkey, haction, Option.map_some]

theorem Step.access?_of_kind?_ne (h : s.kind? ≠ some .store) : s.access? = none := by
  unfold access?
  split
  · next hkind _ _ => exact absurd hkind h
  · rfl

-- A store step that was checked reads or writes some key.
theorem Checked.exists_access? (h : Checked s) (hkind : s.kind? = some .store) :
    ∃ action key, s.access? = some (action, key) := by
  cases h with
  | store _ hname haction hkey =>
    exact ⟨_, _, Step.access?_eq_some_iff.2 ⟨hkind, ⟨_, hname, haction⟩, hkey⟩⟩
  | search hkind' | fetch hkind' | parse hkind' | compute hkind' => cases hkind.symm.trans hkind'

-- What the store tool does with a key, given its arguments: what it gives, and the store it leaves.
def StoreAction.perform (key : String) (args : Args) (store : Store) : StoreAction → Json × Store
  | .write => (.bool true, store.insert key ((args.get? "value").getD .null))
  | .read => ((store.get? key).getD .null, store)

theorem Keep.result_of_access? (haccess : s.access? = some (action, key))
    (hargs : resolveArgs place s results = .ok args) :
    Keep.result args store = .ok (action.perform key args store) := by
  obtain ⟨_, ⟨name, hname, haction⟩, hkey⟩ := Step.access?_eq_some_iff.1 haccess
  have hname' := get?_of_resolveArgs_literal hargs hname rfl
  have hkey' := get?_of_resolveArgs_literal hargs hkey rfl
  simp only [Keep.result, Args.requireText_of_get? hname', Args.requireText_of_get? hkey', bind,
    Except.bind, haction]
  cases action <;> rfl

end Stepwise
