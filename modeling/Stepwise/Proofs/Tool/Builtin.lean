import Stepwise.Proofs.Dict
import Stepwise.Proofs.Plan.Checked
import Stepwise.Run.Basic
import Stepwise.Tool.Builtin

namespace Stepwise

-- An open registry takes tools under names that are all new.
theorem Registry.registerAll_of_fresh {α : Type} {r : Registry α} {es : List (String × α)}
    (hopen : r.isSealed = false) (hfresh : ∀ e ∈ es, r.tools.get? e.1 = none)
    (hnodup : (es.map (·.1)).Nodup) :
    r.registerAll es = ({ r with tools := r.tools.insertAll es }, none) := by
  induction es generalizing r with
  | nil => rfl
  | cons e rest ih =>
    obtain ⟨name, tool⟩ := e
    rw [List.map_cons, List.nodup_cons] at hnodup
    have hregister : r.register name tool = .ok { r with tools := r.tools.insert name tool } := by
      have hnone : r.tools.get? name = none := hfresh (name, tool) List.mem_cons_self
      simp [register, hopen, Dict.contains, hnone]
    have hrest := ih (r := { r with tools := r.tools.insert name tool }) hopen
      (fun e he => by
        have hne : e.1 ≠ name := fun heq => hnodup.1 (heq ▸ List.mem_map.2 ⟨e, he, rfl⟩)
        rw [Dict.get?_insert, if_neg hne]
        exact hfresh e (List.mem_cons_of_mem _ he))
      hnodup.2
    simp only [registerAll, hregister]
    exact hrest

variable {ν : Type} (settings : Settings) (network : Network ν)
  (wording : Extract.Wording)

-- The tool that carries out the steps of a kind.
def builtinTool : StepKind → Tool (World ν)
  | .search => Search.tool settings.searcher
  | .fetch => Fetch.tool settings.fetcher network
  | .parse => Extract.tool wording
  | .compute => Compute.tool
  | .store => Keep.tool

theorem tools_builtinRegistry :
    (builtinRegistry settings network wording).tools =
      Dict.empty.insertAll (builtinTools settings network wording) := by
  unfold builtinRegistry
  rw [Registry.registerAll_of_fresh rfl (fun _ _ => rfl) (by
    simp [builtinTools, Search.name, Fetch.name, Extract.name, Compute.name, Keep.name])]
  rfl

theorem get?_builtinRegistry (name : String) :
    (builtinRegistry settings network wording).tools.get? name =
      (StepKind.ofToolName? name).map (builtinTool settings network wording) := by
  rw [tools_builtinRegistry]
  simp only [Dict.insertAll, builtinTools, List.foldl_cons, List.foldl_nil, Dict.get?_insert,
    Search.name, Fetch.name, Extract.name, Compute.name, Keep.name]
  cases hkind : StepKind.ofToolName? name with
  | some kind =>
    rw [← StepKind.ofToolName?_eq_some_iff.1 hkind]
    cases kind <;> simp [StepKind.toolName, builtinTool]
  | none =>
    have hne (kind : StepKind) : name ≠ kind.toolName := by
      rintro rfl
      rw [StepKind.ofToolName?_eq_some_iff.2 rfl] at hkind
      cases hkind
    rw [if_neg (show name ≠ "Store" from hne .store),
      if_neg (show name ≠ "Compute" from hne .compute),
      if_neg (show name ≠ "Parser" from hne .parse),
      if_neg (show name ≠ "Fetcher" from hne .fetch),
      if_neg (show name ≠ "Searcher" from hne .search)]
    rfl

theorem resolve_builtinRegistry {s : Step} {kind : StepKind} (h : s.kind? = some kind) :
    (builtinRegistry settings network wording).resolve s.tool =
      .ok (builtinTool settings network wording kind) := by
  rw [Registry.resolve, get?_builtinRegistry, show StepKind.ofToolName? s.tool = some kind from h]
  rfl

theorem exists_kind_of_resolve {name : String} {tool : Tool (World ν)}
    (h : (builtinRegistry settings network wording).resolve name = .ok tool) :
    ∃ kind, tool = builtinTool settings network wording kind := by
  rw [Registry.resolve, get?_builtinRegistry] at h
  cases hkind : StepKind.ofToolName? name with
  | none =>
    rw [hkind] at h
    cases h
  | some kind =>
    rw [hkind] at h
    cases h
    exact ⟨kind, rfl⟩

-- The executor over the built-in tools.
def Executor.builtin : Executor (World ν) := ⟨builtinRegistry settings network wording, rfl⟩

end Stepwise
