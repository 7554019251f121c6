import Stepwise.Proofs.Dict
import Stepwise.Proofs.Plan.Dependencies

namespace Stepwise

namespace Step

variable {s : Step} {target : Nat}

-- A step reads a result where a run resolves one of its pointers to it.
def Reads (s : Step) (target : Nat) : Prop := ∃ p, s.Uses p ∧ p.step = target

-- A pointer in a list of inputs, whether or not the step is one that takes inputs.
def Lists (s : Step) (target : Nat) : Prop :=
  ∃ items v p, s.args.get? "inputs" = some (.arr items) ∧ v ∈ items ∧
    Pointer.detect? v = some (.ok p) ∧ p.step = target

-- Only a computation resolves its inputs.
theorem Lists.reads (h : s.Lists target) (hkind : s.kind? = some .compute) : s.Reads target := by
  obtain ⟨items, v, p, hinputs, hv, hp, htarget⟩ := h
  exact ⟨p, .input hkind hinputs hv hp, htarget⟩

-- The targets of a step are what it reads and what it lists.
theorem mem_targets_iff : target ∈ s.targets ↔ s.Reads target ∨ s.Lists target := by
  constructor
  · intro h
    rcases List.mem_append.1 h with harg | hinput
    · obtain ⟨⟨name, p⟩, hmem, rfl⟩ := List.mem_map.1 harg
      obtain ⟨v, hentry, hp⟩ := mem_argPointers_iff.1 hmem
      exact .inl ⟨p, .arg (Dict.get?_of_mem hentry) hp, rfl⟩
    · obtain ⟨p, hmem, rfl⟩ := List.mem_map.1 hinput
      obtain ⟨items, v, hinputs, hv, hp⟩ := mem_inputPointers_iff.1 hmem
      exact .inr ⟨items, v, p, hinputs, hv, hp, rfl⟩
  · rintro (⟨p, huses, rfl⟩ | ⟨items, v, p, hinputs, hv, hp, rfl⟩)
    · cases huses with
      | arg hget hp => exact mem_targets_of_arg (Dict.mem_of_get? hget) hp
      | input _ hinputs hv hp => exact mem_targets_of_input hinputs hv hp
    · exact mem_targets_of_input hinputs hv hp

end Step

namespace Plan

-- The dependencies of a step are the earlier steps that it reads or lists. They are exactly those
-- that it reads unless it is no computation and lists an earlier step that it does not read.
theorem mem_dependencies_iff_reads_iff (plan : Plan) (place : Fin plan.steps.length)
    (target : Nat) :
    (target ∈ plan.dependencies.dependencies place ↔
      target < place ∧ (plan.steps[place].Reads target ∨ plan.steps[place].Lists target)) ∧
    ((target ∈ plan.dependencies.dependencies place ↔
        target < place ∧ plan.steps[place].Reads target) ↔
      ¬ (target < place ∧ plan.steps[place].kind? ≠ some .compute ∧
        plan.steps[place].Lists target ∧ ¬ plan.steps[place].Reads target)) := by
  have hget : plan.steps[(place : Nat)]? = some plan.steps[place] :=
    List.getElem?_eq_getElem place.isLt
  have hmem : target ∈ plan.dependencies.dependencies place ↔
      target < place ∧ (plan.steps[place].Reads target ∨ plan.steps[place].Lists target) := by
    rw [dependencies_of_getElem? hget, Dependencies.mem_earlier, Step.mem_targets_iff]
  refine ⟨hmem, ?_⟩
  rw [hmem]
  constructor
  · rintro hsame ⟨hlt, -, hlists, hnot⟩
    exact hnot (hsame.1 ⟨hlt, .inr hlists⟩).2
  · intro hopen
    refine ⟨fun ⟨hlt, hreads⟩ => ⟨hlt, ?_⟩, fun ⟨hlt, hreads⟩ => ⟨hlt, .inl hreads⟩⟩
    rcases hreads with hreads | hlists
    · exact hreads
    · refine Classical.byContradiction fun hnot => hopen ⟨hlt, ?_, hlists, hnot⟩
      exact fun hkind => hnot (hlists.reads hkind)

-- The second step keeps nothing of the first one's result. It only has a list named like the inputs
-- of a computation.
def keepListed : Plan where
  steps :=
    [⟨"first", "Store", .ofList [("action", .str "read"), ("key", .str "k")]⟩,
     ⟨"second", "Store", .ofList [("action", .str "read"), ("key", .str "k"),
       ("inputs", .arr [.obj [("from", .ofNat 0), ("field", .str "")]])]⟩]
  valid := by decide

-- A step may depend on another one without reading it.
theorem mem_dependencies_keepListed :
    0 ∈ keepListed.dependencies.dependencies 1 ∧
      ∃ s, keepListed.steps[1]? = some s ∧ ¬ s.Reads 0 := by
  have hliteral : ∀ e ∈ (keepListed.steps[1]).args.entries, (Pointer.detect? e.2).isNone := by
    decide
  refine ⟨by decide, keepListed.steps[1], rfl, ?_⟩
  rintro ⟨p, huses, -⟩
  cases huses with
  | arg hget hp =>
    have hnone := hliteral _ (Dict.mem_of_get? hget)
    rw [hp] at hnone
    cases hnone
  | input hkind => cases hkind

end Plan

end Stepwise
