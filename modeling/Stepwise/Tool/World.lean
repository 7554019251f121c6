import Stepwise.Json.Basic

namespace Stepwise

-- What the store tool has kept, by name.
abbrev Store := Dict Json

-- What a request comes to: no answer, or a status and a body of which `declared` bytes are announced.
inductive Reply
  | unreachable (detail : String)
  | answer (status declared : Nat) (body : List UInt8)

-- A network whose state `ν` a request may change.
structure Network (ν : Type) where
  get : (timeoutSecs : Nat) → (url : String) → ν → Reply × ν

-- No request is answered.
def Network.closed {ν : Type} : Network ν := ⟨fun _ _ net => (.unreachable "no connection", net)⟩

-- The world of the built-in tools.
structure World (ν : Type) where
  store : Store
  net : ν

end Stepwise
