import Stepwise.Dict

namespace Stepwise

inductive RegistryError
  | duplicate (name : String)
  | isSealed (name : String)
  | notSealed
  | notFound (name : String)
deriving DecidableEq

namespace RegistryError

def message : RegistryError → String
  | duplicate name => "tool \"" ++ name ++ "\" is already registered"
  | isSealed name => "registry is sealed; cannot register \"" ++ name ++ "\""
  | notSealed => "registry has not been sealed"
  | notFound name => "tool not found: \"" ++ name ++ "\""

def code : RegistryError → String
  | duplicate _ => "bicameral::registry::duplicate"
  | isSealed _ => "bicameral::registry::sealed"
  | notSealed => "bicameral::registry::not_sealed"
  | notFound _ => "bicameral::registry::tool_not_found"

def help : RegistryError → String
  | duplicate _ => "Tool names are unique; re-registration is rejected instead of replacing the tool."
  | isSealed _ => "All tools must be registered during bootstrap, before `seal()` is called."
  | notSealed => "Call `seal()` on the registry after bootstrap and before constructing an executor."
  | notFound _ => "Check the available tools with `registry.names()`."

end RegistryError

-- Tools under their names. Once sealed, a registry never changes again.
structure Registry (α : Type) where
  tools : Dict α
  isSealed : Bool

namespace Registry

variable {α : Type}

def empty : Registry α := ⟨.empty, false⟩

-- A sealed registry takes nothing, and a name is never given twice.
def register (r : Registry α) (name : String) (tool : α) : Except RegistryError (Registry α) :=
  if r.isSealed then .error (.isSealed name)
  else if r.tools.contains name then .error (.duplicate name)
  else .ok { r with tools := r.tools.insert name tool }

-- Register in order, up to the first that is refused; those before it stay.
def registerAll (r : Registry α) : List (String × α) → Registry α × Option RegistryError
  | [] => (r, none)
  | (name, tool) :: rest =>
    match r.register name tool with
    | .ok r => r.registerAll rest
    | .error e => (r, some e)

def close (r : Registry α) : Registry α := { r with isSealed := true }

def resolve (r : Registry α) (name : String) : Except RegistryError α :=
  match r.tools.get? name with
  | some tool => .ok tool
  | none => .error (.notFound name)

def contains (r : Registry α) (name : String) : Bool := r.tools.contains name

def names (r : Registry α) : List String := r.tools.keys

def size (r : Registry α) : Nat := r.tools.size

def isEmpty (r : Registry α) : Bool := r.tools.isEmpty

end Registry

end Stepwise
