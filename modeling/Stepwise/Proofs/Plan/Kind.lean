import Stepwise.Plan.Kind

namespace Stepwise

theorem Operation.ofName?_eq_some_iff {t : String} {op : Operation} :
    Operation.ofName? t = some op ↔ op.name = t := by
  constructor
  · intro h
    exact beq_iff_eq.1 (List.find?_some (p := fun o : Operation => o.name == t) h)
  · rintro rfl
    cases op <;> rfl

theorem StoreAction.mem_of_ofName? {t : String} {action : StoreAction}
    (h : StoreAction.ofName? t = some action) : t ∈ ["write", "read"] := by
  unfold StoreAction.ofName? at h
  split at h
  · next ht => simp [ht]
  · split at h
    · next ht => simp [ht]
    · cases h

namespace SelectorKind

theorem split?_mark (kind : SelectorKind) (text : List Char) :
    split? (kind.mark ++ text) = some (kind, text) := by
  cases kind <;> rfl

theorem eq_of_split? {cs text : List Char} {kind : SelectorKind}
    (h : split? cs = some (kind, text)) : cs = kind.mark ++ text := by
  have hdrop {k : SelectorKind} (hk : k.mark.isPrefixOf cs = true) :
      cs = k.mark ++ cs.drop k.mark.length :=
    (List.prefix_iff_eq_append.1 (List.isPrefixOf_iff_prefix.1 hk)).symm
  unfold split? at h
  split at h
  · next hk =>
    cases h
    exact hdrop hk
  · split at h
    · next hk =>
      cases h
      exact hdrop hk
    · split at h
      · next hk =>
        cases h
        exact hdrop hk
      · cases h

theorem isSelector_iff {s : String} :
    isSelector s = true ↔
      ∃ kind text, s.toList = mark kind ++ text ∧ text ≠ [] ∧ '\n' ∉ text := by
  unfold isSelector
  constructor
  · intro h
    split at h
    · next kind text hsplit =>
      simp only [Bool.and_eq_true, Bool.not_eq_true', List.isEmpty_eq_false_iff,
        List.contains_eq_mem, decide_eq_false_iff_not] at h
      exact ⟨kind, text, eq_of_split? hsplit, h.1, h.2⟩
    · cases h
  · rintro ⟨kind, text, hs, hne, hline⟩
    rw [hs, split?_mark]
    simp [hne, hline]

end SelectorKind

end Stepwise
