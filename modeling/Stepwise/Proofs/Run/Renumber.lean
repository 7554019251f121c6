import Stepwise.Proofs.Plan.Renumber
import Stepwise.Proofs.Run.Completion
import Stepwise.Proofs.Run.Dangling

namespace Stepwise

variable {f : Nat → Nat} {place place' : Nat} {s : Step} {p : Pointer} {arg : String}
  {v w : Json} {results results' : List Json} {args args' : Args}

-- A pointer that keeps its value when it is renumbered: what it gives in the results so far, its
-- renumbered form gives in the others.
def Pointer.Follows (f : Nat → Nat) (results results' : List Json) (p : Pointer) : Prop :=
  ∀ w, p.resolve results = .ok w → (p.renumber f).resolve results' = .ok w

def Step.Follows (f : Nat → Nat) (s : Step) (results results' : List Json) : Prop :=
  ∀ p, s.Uses p → p.Follows f results results'

theorem Pointer.follows_of_getElem?
    (hentry : p.step < results.length → results'[f p.step]? = results[p.step]?) :
    p.Follows f results results' := by
  intro w h
  have hentry' : results'[(p.renumber f).step]? = results[p.step]? :=
    hentry (lt_length_of_resolve h)
  unfold resolve at h ⊢
  rw [hentry']
  split at h
  · cases h
  · split at h
    · next hwalk =>
      cases h
      simp only [renumber, hwalk]
    · cases h

section

variable (hf : ∀ n < 0x10000000000000000, f n < 0x10000000000000000)

include hf

theorem resolveArg_renumber
    (hfollows : ∀ p, Pointer.detect? v = some (.ok p) → p.Follows f results results')
    (h : resolveArg place results arg v = .ok w) :
    resolveArg place' results' arg (v.renumber f) = .ok w := by
  unfold resolveArg at h
  split at h
  · next hnone =>
    cases h
    rw [Json.renumber_of_detect?_none hnone]
    exact resolveArg_of_detect?_none hnone
  · cases h
  · next p hp =>
    split at h
    · next hresolve =>
      cases h
      simp only [resolveArg, Json.detect?_renumber hp (lt_of_detect? hf hp),
        hfollows p hp _ hresolve]
    · cases h

theorem Compute.resolveInput_renumber
    (hfollows : ∀ p, Pointer.detect? v = some (.ok p) → p.Follows f results results')
    (h : resolveInput results place v = .ok w) :
    resolveInput results' place (v.renumber f) = .ok w := by
  unfold resolveInput at h
  split at h
  · next hnone =>
    cases h
    rw [Json.renumber_of_detect?_none hnone]
    simp only [resolveInput, hnone]
  · cases h
  · next p hp =>
    split at h
    · next hresolve =>
      cases h
      simp only [resolveInput, Json.detect?_renumber hp (lt_of_detect? hf hp),
        hfollows p hp _ hresolve]
    · cases h
    · cases h

theorem Compute.resolveInputsFrom_renumber {items ws : List Json}
    (hfollows : ∀ v ∈ items, ∀ p, Pointer.detect? v = some (.ok p) → p.Follows f results results')
    (h : resolveInputsFrom results place items = .ok ws) :
    resolveInputsFrom results' place (items.map (Json.renumber f)) = .ok ws := by
  induction items generalizing place ws with
  | nil => exact h
  | cons v rest ih =>
    rw [List.forall_mem_cons] at hfollows
    unfold resolveInputsFrom at h
    split at h
    · cases h
    · next w hw =>
      obtain ⟨ws', hrest, rfl⟩ := map_eq_ok_iff.1 h
      simp only [List.map_cons, resolveInputsFrom, resolveInput_renumber hf hfollows.1 hw,
        ih hfollows.2 hrest]
      rfl

end

-- Entries that are changed each for itself, so that each still has a value.
theorem resolveEntries_map {es ws : List (String × Json)} {g k : String → Json → Json}
    (hentry : ∀ x ∈ es, ∀ w, resolveArg place results x.1 x.2 = .ok w →
      resolveArg place' results' x.1 (g x.1 x.2) = .ok (k x.1 w))
    (h : resolveEntries place results es = .ok ws) :
    resolveEntries place' results' (es.map fun x => (x.1, g x.1 x.2)) =
      .ok (ws.map fun x => (x.1, k x.1 x.2)) := by
  induction es generalizing ws with
  | nil =>
    cases h
    rfl
  | cons x rest ih =>
    obtain ⟨arg, v⟩ := x
    rw [List.forall_mem_cons] at hentry
    unfold resolveEntries at h
    split at h
    · cases h
    · next w hw =>
      obtain ⟨ws', hrest, rfl⟩ := map_eq_ok_iff.1 h
      simp only [List.map_cons, resolveEntries, hentry.1 w hw, ih hentry.2 hrest]
      rfl

-- What an argument comes to once the step is renumbered: the inputs of a computation stay as they are
-- written, so they are renumbered too, and any other argument has the value that it had.
def Step.renumberValue (f : Nat → Nat) (s : Step) (name : String) (w : Json) : Json :=
  if s.kind? = some .compute ∧ name = "inputs" then w.renumberItems f else w

theorem resolveArgs_renumber (hf : ∀ n < 0x10000000000000000, f n < 0x10000000000000000)
    (hchecked : Checked s) (hfollows : s.Follows f results results')
    (h : resolveArgs place s results = .ok args) :
    resolveArgs place' (s.renumber f) results' = .ok (args.map (s.renumberValue f)) := by
  have hentry (x : String × Json) (hx : x ∈ s.args.toList) (w : Json)
      (hw : resolveArg place results x.1 x.2 = .ok w) :
      resolveArg place' results' x.1 (s.renumberArg f x.1 x.2) =
        .ok (s.renumberValue f x.1 w) := by
    obtain ⟨name, v⟩ := x
    have hget : s.args.get? name = some v := Dict.get?_of_mem hx
    dsimp only at hw ⊢
    unfold Step.renumberArg Step.renumberValue
    by_cases hname : s.kind? = some .compute ∧ name = "inputs"
    · obtain ⟨hkind, rfl⟩ := hname
      rw [if_pos ⟨hkind, rfl⟩, if_pos ⟨hkind, rfl⟩]
      cases hchecked with
      | compute _ _ _ hinputs _ _ _ =>
        rw [hinputs] at hget
        cases hget
        cases hw
        rfl
      | search hkind' | fetch hkind' | parse hkind' | store hkind' => cases hkind.symm.trans hkind'
    · rw [if_neg hname, if_neg hname]
      exact resolveArg_renumber hf (fun p hp => hfollows p (.arg hget hp)) hw
  have hentries : resolveEntries place' results' (s.renumber f).args.toList =
      .ok (args.map (s.renumberValue f)).entries :=
    resolveEntries_map hentry (resolveEntries_of_resolveArgs h)
  rw [resolveArgs, hentries]
  exact congrArg Except.ok (Dict.ofList_entries _)

theorem map_renumberValue_of_ne (h : s.kind? ≠ some .compute) :
    args.map (s.renumberValue f) = args :=
  Dict.map_of_forall_eq fun _ _ => if_neg fun hname => h hname.1

theorem get?_map_renumberValue {name : String} (h : name ≠ "inputs") :
    (args.map (s.renumberValue f)).get? name = args.get? name := by
  have hvalue : s.renumberValue f name = id := funext fun _ => if_neg fun hname => h hname.2
  rw [Dict.get?_map, hvalue, Option.map_id_apply]

theorem get?_inputs_map_renumberValue (h : s.kind? = some .compute) :
    (args.map (s.renumberValue f)).get? "inputs" =
      (args.get? "inputs").map (Json.renumberItems f) := by
  have hvalue : s.renumberValue f "inputs" = Json.renumberItems f :=
    funext fun _ => if_pos ⟨h, rfl⟩
  rw [Dict.get?_map, hvalue]

namespace Compute

-- Besides its inputs a computation sees its operation and its parameters.
theorem result_congr {trace trace' : List Json} (hop : args.get? "op" = args'.get? "op")
    (hparams : args.get? "params" = args'.get? "params")
    (hinputs : resolveInputs args trace = resolveInputs args' trace') :
    result args trace = result args' trace' := by
  unfold result Args.requireText Args.require
  rw [hop, hparams, hinputs]

theorem result_renumber (hf : ∀ n < 0x10000000000000000, f n < 0x10000000000000000)
    (hchecked : Checked s) (hkind : s.kind? = some .compute)
    (hfollows : s.Follows f results results') (hargs : resolveArgs place s results = .ok args)
    (h : result args results = .ok v) : result (args.map (s.renumberValue f)) results' = .ok v := by
  rw [← h]
  refine result_congr (get?_map_renumberValue (by decide)) (get?_map_renumberValue (by decide)) ?_
  obtain ⟨ws, hws⟩ := exists_of_result_ok h
  cases hchecked with
  | compute _ _ _ hinputs _ _ _ =>
    have hget := get?_of_resolveArgs_literal hargs hinputs rfl
    rw [hws]
    simp only [resolveInputs, hget] at hws
    simp only [resolveInputs, get?_inputs_map_renumberValue hkind, hget, Option.map_some,
      Json.renumberItems]
    exact resolveInputsFrom_renumber hf
      (fun v hv p hp => hfollows p (.input hkind hinputs hv hp)) hws
  | search hkind' | fetch hkind' | parse hkind' | store hkind' => cases hkind.symm.trans hkind'

end Compute

-- A step that completes does so too when it is renumbered, at any place and with any results in which
-- its pointers have the values that they had. It gives and keeps the same.
theorem Completes.renumber {settings : Settings} {reply : String → Reply} {store after : Store}
    (hf : ∀ n < 0x10000000000000000, f n < 0x10000000000000000) (hchecked : Checked s)
    (hfollows : s.Follows f results results')
    (h : Completes settings wording reply place s results store v after) (place' : Nat) :
    Completes settings wording reply place' (s.renumber f) results' store v after := by
  cases h with
  | @intro kind args hkind hargs h =>
    have hargs' : resolveArgs place' (s.renumber f) results' = .ok (args.map (s.renumberValue f)) :=
      resolveArgs_renumber hf hchecked hfollows hargs
    refine .intro hkind hargs' ?_
    have hsame (hne : kind ≠ .compute) : args.map (s.renumberValue f) = args :=
      map_renumberValue_of_ne (by simpa [hkind] using hne)
    cases h with
    | search hresult =>
      rw [hsame (by decide)]
      exact .search hresult
    | fetch hurl hcheck hread =>
      rw [hsame (by decide)]
      exact .fetch hurl hcheck hread
    | parse hresult =>
      rw [hsame (by decide)]
      exact .parse hresult
    | compute hresult =>
      exact .compute (Compute.result_renumber hf hchecked hkind hfollows hargs hresult)
    | store hresult =>
      rw [hsame (by decide)]
      exact .store hresult

end Stepwise
