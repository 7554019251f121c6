import Stepwise.Proofs.Run.Arguments
import Stepwise.Proofs.Run.Transition
import Stepwise.Proofs.Tool.Agreement

namespace Stepwise.Run

-- A step carried out twice to the same effect: it ends alike, adds the same results to the trace,
-- and leaves the same store.
structure Agreement {ν μ : Type} (context context' : Context)
    (a : Except RunError Unit × Context × World ν)
    (b : Except RunError Unit × Context × World μ) : Prop where
  result : a.1 = b.1
  added : ∃ vs, a.2.1.runTrace = context.runTrace ++ vs ∧ b.2.1.runTrace = context'.runTrace ++ vs
  store : a.2.2.store = b.2.2.store

variable {ν μ : Type} {settings : Settings} {network : Network ν} {network' : Network μ}
  {wording : Extract.Wording}
  {token : Token (World ν)} {token' : Token (World μ)} {place : Nat} {s : Step}
  {context context' : Context} {world : World ν} {world' : World μ}

-- The url that a checked fetch asks for is the one in its step.
theorem url_of_resolveArgs {trace : List Json} {args : Args} {url : String} (hchecked : Checked s)
    (hkind : s.kind? = some .fetch) (hargs : resolveArgs place s trace = .ok args)
    (hurl : args.get? "url" = some (.str url)) : s.args.get? "url" = some (.str url) := by
  cases hchecked with
  | fetch _ hown _ =>
    rw [get?_of_resolveArgs_literal hargs hown rfl] at hurl
    cases hurl
    exact hown
  | search hkind' | parse hkind' | compute hkind' | store hkind' => cases hkind.symm.trans hkind'

theorem call_agree_of_resolveArgs {kind : StepKind} {args : Args} (hchecked : Checked s)
    (hkind : s.kind? = some kind) (hargs : resolveArgs place s context.runTrace = .ok args)
    (hstore : world.store = world'.store)
    (hreply : SameReply settings network network' s world world')
    (hcompute : kind = .compute →
      Compute.result args context.runTrace = Compute.result args context'.runTrace) :
    ((builtinTool settings network wording kind).call args context world).1 =
        ((builtinTool settings network' wording kind).call args context' world').1 ∧
      ((builtinTool settings network wording kind).call args context world).2.2.store =
        ((builtinTool settings network' wording kind).call args context' world').2.2.store := by
  refine call_agree kind hstore hcompute ?_
  rintro rfl url hurl
  exact hreply url hkind (url_of_resolveArgs hchecked hkind hargs hurl)

-- A step depends on no more than this: what the token reads, what its arguments resolve to, the
-- results that a computation sees, the store and the reply.
theorem step_agree (hchecked : Checked s) (htoken : token place world = token' place world')
    (hresolve : resolveArgs place s context.runTrace = resolveArgs place s context'.runTrace)
    (hcompute : ∀ args, resolveArgs place s context.runTrace = .ok args →
      s.kind? = some .compute →
      Compute.result args context.runTrace = Compute.result args context'.runTrace)
    (hstore : world.store = world'.store)
    (hreply : SameReply settings network network' s world world') :
    Agreement context context'
      (step (builtinRegistry settings network wording) token place s context world)
      (step (builtinRegistry settings network' wording) token' place s context' world') := by
  obtain ⟨kind, hkind⟩ := hchecked.exists_kind
  have hfound := resolve_builtinRegistry settings network wording hkind
  have hfound' := resolve_builtinRegistry settings network' wording hkind
  cases hread : token place world with
  | true =>
    rw [(Transition.cancelled hread).step_eq, (Transition.cancelled (htoken ▸ hread)).step_eq]
    exact ⟨rfl, ⟨[], by simp⟩, hstore⟩
  | false =>
    cases hargs : resolveArgs place s context.runTrace with
    | error e =>
      rw [(Transition.unresolved hread hfound hargs).step_eq,
        (Transition.unresolved (htoken ▸ hread) hfound' (hresolve ▸ hargs)).step_eq]
      exact ⟨rfl, ⟨[], by simp⟩, hstore⟩
    | ok args =>
      obtain ⟨hresult, hleft⟩ := call_agree_of_resolveArgs hchecked hkind hargs hstore hreply
        fun hkind' => hcompute args hargs (hkind' ▸ hkind)
      cases hcall : (builtinTool settings network wording kind).call args context world with
      | mk r rest =>
      cases hcall' : (builtinTool settings network' wording kind).call args context' world' with
      | mk r' rest' =>
      rw [hcall, hcall'] at hresult hleft
      cases (show r = r' from hresult)
      cases r with
      | error e =>
        rw [(Transition.failed hread hfound hargs hcall).step_eq,
          (Transition.failed (htoken ▸ hread) hfound' (hresolve ▸ hargs) hcall').step_eq]
        exact ⟨rfl, ⟨[], by simp [Context.runTrace]⟩, hleft⟩
      | ok v =>
        rw [(Transition.completed hread hfound hargs hcall).step_eq,
          (Transition.completed (htoken ▸ hread) hfound' (hresolve ▸ hargs) hcall').step_eq]
        exact ⟨rfl, ⟨[v], rfl, rfl⟩, hleft⟩

end Stepwise.Run
