import Stepwise.Proofs.Except
import Stepwise.Tool.Basic

namespace Stepwise.Args

variable {args : Args} {name tool t : String}

theorem requireText_of_get? (h : args.get? name = some (.str t)) (tool : String) :
    args.requireText name tool = .ok t := by
  simp only [requireText, require, h]
  rfl

theorem get?_of_requireText (h : args.requireText name tool = .ok t) :
    args.get? name = some (.str t) := by
  obtain ⟨v, hrequire, htext⟩ := bind_eq_ok_iff.1 h
  have hget : args.get? name = some v := by
    unfold require at hrequire
    split at hrequire
    · next hget =>
      cases hrequire
      exact hget
    · cases hrequire
  cases v with
  | str s =>
    cases htext
    exact hget
  | _ => cases htext

theorem requireText_error {v : Json} {e : ToolError} (h : args.get? name = some v)
    (he : args.requireText name tool = .error e) : e = .invalidArg tool name .notText := by
  simp only [requireText, require, h] at he
  cases v <;> cases he
  all_goals rfl

theorem requireObject_of_get? {members : List (String × Json)}
    (h : args.get? name = some (.obj members)) (tool : String) :
    args.requireObject name tool = .ok members := by
  simp only [requireObject, require, h]
  rfl

end Stepwise.Args
