import Stepwise.Run.Context
import Stepwise.Tool.Error

namespace Stepwise

-- The arguments of one call, their pointers already replaced.
abbrev Args := Dict Json

namespace Args

def require (args : Args) (name tool : String) : Except ToolError Json :=
  match args.get? name with
  | some v => .ok v
  | none => .error (.missingArg tool name)

def requireText (args : Args) (name tool : String) : Except ToolError String := do
  match ← args.require name tool with
  | .str s => .ok s
  | _ => .error (.invalidArg tool name .notText)

def requireObject (args : Args) (name tool : String) : Except ToolError (List (String × Json)) := do
  match ← args.require name tool with
  | .obj members => .ok members
  | _ => .error (.invalidArg tool name .notObject)

end Args

-- A primitive that steps can call. `σ` is the world outside the context: a call may change it and
-- the context's frame, and only reads the trace.
structure Tool (σ : Type) where
  name : String
  description : String
  call : Args → Context → σ → Except ToolError Json × Frame × σ

-- A tool whose result depends on its arguments and the results so far alone.
def Tool.pure {σ : Type} (name description : String)
    (result : Args → (runTrace : List Json) → Except ToolError Json) : Tool σ where
  name := name
  description := description
  call args context world := (result args context.runTrace, context.frame, world)

end Stepwise
