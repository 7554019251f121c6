import Stepwise.Proofs.Tool.Basic
import Stepwise.Proofs.Tool.Builtin

namespace Stepwise

variable {ν μ : Type} {settings : Settings} {network : Network ν} {network' : Network μ}
  {wording : Extract.Wording}
  {args : Args} {context context' : Context} {world : World ν} {world' : World μ}

-- The two networks give one reply to what a step asks for, if it asks for anything.
def SameReply (settings : Settings) (network : Network ν) (network' : Network μ) (s : Step)
    (world : World ν) (world' : World μ) : Prop :=
  ∀ url, s.kind? = some .fetch → s.args.get? "url" = some (.str url) →
    (network.get settings.fetcher.timeoutSecs url world.net).1 =
      (network'.get settings.fetcher.timeoutSecs url world'.net).1

theorem Fetch.call_agree (hstore : world.store = world'.store)
    (hreply : ∀ url, args.get? "url" = some (.str url) →
      (network.get settings.fetcher.timeoutSecs url world.net).1 =
        (network'.get settings.fetcher.timeoutSecs url world'.net).1) :
    ((Fetch.tool settings.fetcher network).call args context world).1 =
        ((Fetch.tool settings.fetcher network').call args context' world').1 ∧
      ((Fetch.tool settings.fetcher network).call args context world).2.2.store =
        ((Fetch.tool settings.fetcher network').call args context' world').2.2.store := by
  unfold Fetch.tool
  dsimp only
  cases hurl : args.requireText "url" name with
  | error e => exact ⟨rfl, hstore⟩
  | ok url =>
    dsimp only
    cases checkUrl url with
    | error e => exact ⟨rfl, hstore⟩
    | ok =>
      refine ⟨?_, hstore⟩
      show Fetch.read _ url _ = Fetch.read _ url _
      rw [hreply url (Args.get?_of_requireText hurl)]

theorem Keep.call_agree (hstore : world.store = world'.store) :
    (Keep.tool.call args context world).1 = (Keep.tool.call args context' world').1 ∧
      (Keep.tool.call args context world).2.2.store =
        (Keep.tool.call args context' world').2.2.store := by
  unfold Keep.tool
  dsimp only
  rw [hstore]
  cases Keep.result args world'.store with
  | error e => exact ⟨rfl, hstore⟩
  | ok v => exact ⟨rfl, rfl⟩

-- A tool sees of its surroundings only the store, the replies and, where it computes, the results.
theorem call_agree (kind : StepKind) (hstore : world.store = world'.store)
    (hcompute : kind = .compute →
      Compute.result args context.runTrace = Compute.result args context'.runTrace)
    (hreply : kind = .fetch → ∀ url, args.get? "url" = some (.str url) →
      (network.get settings.fetcher.timeoutSecs url world.net).1 =
        (network'.get settings.fetcher.timeoutSecs url world'.net).1) :
    ((builtinTool settings network wording kind).call args context world).1 =
        ((builtinTool settings network' wording kind).call args context' world').1 ∧
      ((builtinTool settings network wording kind).call args context world).2.2.store =
        ((builtinTool settings network' wording kind).call args context' world').2.2.store := by
  cases kind with
  | search => exact ⟨rfl, hstore⟩
  | fetch => exact Fetch.call_agree hstore (hreply rfl)
  | parse => exact ⟨rfl, hstore⟩
  | compute => exact ⟨hcompute rfl, hstore⟩
  | store => exact Keep.call_agree hstore

-- No built-in tool writes to the goal, the memory or the metadata.
theorem frame_of_call (kind : StepKind) :
    ((builtinTool settings network wording kind).call args context world).2.1 = context.frame := by
  cases kind with
  | search => rfl
  | fetch =>
    simp only [builtinTool, Fetch.tool]
    split
    · rfl
    · split <;> rfl
  | parse => rfl
  | compute => rfl
  | store =>
    simp only [builtinTool, Keep.tool]
    split <;> rfl

theorem frame_eq_of_call {name : String} {tool : Tool (World ν)} {result : Except ToolError Json}
    {frame : Frame} {left : World ν}
    (hresolve : (builtinRegistry settings network wording).resolve name = .ok tool)
    (hcall : tool.call args context world = (result, frame, left)) : frame = context.frame := by
  obtain ⟨kind, rfl⟩ := exists_kind_of_resolve settings network wording hresolve
  rw [← frame_of_call kind, hcall]

-- A call that fails leaves the store as it was.
theorem store_of_call_error (kind : StepKind) {e : ToolError} {frame : Frame} {left : World ν}
    (h : (builtinTool settings network wording kind).call args context world =
      (.error e, frame, left)) :
    left.store = world.store := by
  cases kind with
  | search =>
    cases (show left = world from (congrArg (·.2.2) h).symm)
    rfl
  | fetch =>
    simp only [builtinTool, Fetch.tool] at h
    split at h
    · cases h
      rfl
    · split at h
      · cases h
        rfl
      · cases (congrArg (·.2.2) h)
        rfl
  | parse =>
    cases (show left = world from (congrArg (·.2.2) h).symm)
    rfl
  | compute =>
    cases (show left = world from (congrArg (·.2.2) h).symm)
    rfl
  | store =>
    simp only [builtinTool, Keep.tool] at h
    split at h
    · cases h
      rfl
    · cases h

end Stepwise
