import Mathlib.Data.List.Forall2
import Stepwise.Proofs.Dict
import Stepwise.Proofs.Except
import Stepwise.Run.Basic

namespace Stepwise

variable {place : Nat} {s : Step} {trace : List Json} {arg : String} {v : Json} {args : Args}
  {es ws : List (String × Json)} {e : RunError}

-- A value without pointer shape is passed on as it is.
theorem resolveArg_of_detect?_none (h : Pointer.detect? v = none) :
    resolveArg place trace arg v = .ok v := by
  simp only [resolveArg, h]

theorem resolveEntries_of_literal (h : ∀ e ∈ es, Pointer.detect? e.2 = none) :
    resolveEntries place trace es = .ok es := by
  induction es with
  | nil => rfl
  | cons x rest ih =>
    obtain ⟨arg, v⟩ := x
    rw [List.forall_mem_cons] at h
    rw [resolveEntries, resolveArg_of_detect?_none h.1, ih h.2]
    rfl

theorem resolveArgs_of_literal (h : ∀ e ∈ s.args.entries, Pointer.detect? e.2 = none) :
    resolveArgs place s trace = .ok s.args := by
  rw [resolveArgs, Dict.toList, resolveEntries_of_literal h]
  exact congrArg Except.ok (Dict.ofList_entries s.args)

-- The two errors of an argument that has no value.
inductive PointerFailure (place : Nat) (arg : String) : RunError → Prop
  | outOfRange (target length : Nat) :
    PointerFailure place arg (.pointerOutOfRange place arg target length)
  | field (target : Nat) (field : String) (fault : WalkFault) :
    PointerFailure place arg (.pointerField place arg target field fault)

theorem PointerFailure.step_eq (h : PointerFailure place arg e) : e.step = place := by
  cases h <;> rfl

theorem pointerFailure_pointerError (p : Pointer) (fault : Pointer.Fault) :
    PointerFailure place arg (pointerError place arg p fault) := by
  cases fault with
  | outOfRange target length => exact .outOfRange target length
  | path fault => exact .field p.step p.field (.path fault)
  | malformed cause => exact .field p.step p.field (.malformed cause)

theorem pointerFailure_of_resolveArg (h : resolveArg place trace arg v = .error e) :
    PointerFailure place arg e := by
  unfold resolveArg at h
  split at h
  · cases h
  · cases h
    exact pointerFailure_pointerError _ _
  · split at h
    · cases h
    · cases h
      exact pointerFailure_pointerError _ _

theorem exists_of_resolveEntries_error (h : resolveEntries place trace es = .error e) :
    ∃ x ∈ es, resolveArg place trace x.1 x.2 = .error e := by
  induction es with
  | nil => cases h
  | cons x rest ih =>
    obtain ⟨arg, v⟩ := x
    unfold resolveEntries at h
    split at h
    · next hx =>
      cases h
      exact ⟨(arg, v), List.mem_cons_self, hx⟩
    · obtain ⟨x, hx, hxe⟩ := ih (map_eq_error_iff.1 h)
      exact ⟨x, List.mem_cons_of_mem _ hx, hxe⟩

theorem exists_of_resolveArgs_error (h : resolveArgs place s trace = .error e) :
    ∃ x ∈ s.args.entries, PointerFailure place x.1 e := by
  obtain ⟨x, hx, hxe⟩ := exists_of_resolveEntries_error (map_eq_error_iff.1 h)
  exact ⟨x, hx, pointerFailure_of_resolveArg hxe⟩

theorem step_of_resolveArgs_error (h : resolveArgs place s trace = .error e) : e.step = place := by
  obtain ⟨x, _, hx⟩ := exists_of_resolveArgs_error h
  exact hx.step_eq

-- One entry before and after its pointer is replaced.
def Resolves (place : Nat) (trace : List Json) (x y : String × Json) : Prop :=
  x.1 = y.1 ∧ resolveArg place trace x.1 x.2 = .ok y.2

theorem forall₂_of_resolveEntries (h : resolveEntries place trace es = .ok ws) :
    List.Forall₂ (Resolves place trace) es ws := by
  induction es generalizing ws with
  | nil =>
    cases h
    exact .nil
  | cons x rest ih =>
    obtain ⟨arg, v⟩ := x
    unfold resolveEntries at h
    split at h
    · cases h
    · next w hw =>
      obtain ⟨ws', hrest, rfl⟩ := map_eq_ok_iff.1 h
      exact .cons ⟨rfl, hw⟩ (ih hrest)

theorem map_fst_of_forall₂ (h : List.Forall₂ (Resolves place trace) es ws) :
    ws.map Prod.fst = es.map Prod.fst := by
  induction h with
  | nil => rfl
  | cons hx _ ih => rw [List.map_cons, List.map_cons, ih, hx.1]

theorem resolveEntries_of_resolveArgs (h : resolveArgs place s trace = .ok args) :
    resolveEntries place trace s.args.toList = .ok args.entries := by
  obtain ⟨ws, hentries, rfl⟩ := map_eq_ok_iff.1 h
  have hascending : ws.Pairwise fun a b => a.1 < b.1 := by
    refine List.pairwise_map.1 ?_
    rw [map_fst_of_forall₂ (forall₂_of_resolveEntries hentries)]
    exact List.pairwise_map.2 s.args.ascending
  rw [Dict.entries_ofList hascending]
  exact hentries

-- The names of the arguments stay, and so does their order.
theorem entries_of_resolveArgs (h : resolveArgs place s trace = .ok args) :
    List.Forall₂ (Resolves place trace) s.args.entries args.entries :=
  forall₂_of_resolveEntries (resolveEntries_of_resolveArgs h)

theorem lookup_of_forall₂ (h : List.Forall₂ (Resolves place trace) es ws) (name : String) :
    (es.lookup name = none ∧ ws.lookup name = none) ∨
      ∃ v w, es.lookup name = some v ∧ ws.lookup name = some w ∧
        resolveArg place trace name v = .ok w := by
  induction h with
  | nil => exact .inl ⟨rfl, rfl⟩
  | @cons x y _ _ hx _ ih =>
    rw [Dict.lookup_cons, Dict.lookup_cons, ← hx.1]
    by_cases hname : name = x.1
    · rw [if_pos hname, if_pos hname]
      exact .inr ⟨x.2, y.2, rfl, rfl, hname ▸ hx.2⟩
    · rw [if_neg hname, if_neg hname]
      exact ih

theorem get?_of_resolveArgs {name : String} (h : resolveArgs place s trace = .ok args)
    (hget : s.args.get? name = some v) :
    ∃ w, args.get? name = some w ∧ resolveArg place trace name v = .ok w := by
  rcases lookup_of_forall₂ (entries_of_resolveArgs h) name with ⟨hnone, _⟩ | ⟨v', w, hv, hw, hres⟩
  · rw [Dict.get?, hnone] at hget
    cases hget
  · rw [Dict.get?, hv] at hget
    cases hget
    exact ⟨w, hw, hres⟩

theorem get?_of_resolveArgs_none {name : String} (h : resolveArgs place s trace = .ok args)
    (hget : s.args.get? name = none) : args.get? name = none := by
  rcases lookup_of_forall₂ (entries_of_resolveArgs h) name with ⟨_, hnone⟩ | ⟨v, w, hv, _, _⟩
  · exact hnone
  · rw [Dict.get?, hv] at hget
    cases hget

theorem get?_of_resolveArgs_literal {name : String} (h : resolveArgs place s trace = .ok args)
    (hget : s.args.get? name = some v) (hv : Pointer.detect? v = none) :
    args.get? name = some v := by
  obtain ⟨w, hw, hres⟩ := get?_of_resolveArgs h hget
  rw [resolveArg_of_detect?_none hv] at hres
  cases hres
  exact hw

end Stepwise
