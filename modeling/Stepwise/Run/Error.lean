import Stepwise.Tool.Error

namespace Stepwise

-- Why a pointer cannot be walked.
inductive WalkFault
  | path (fault : FieldPath.Fault)
  | malformed (cause : Pointer.Malformed)
  | other (text : String)
deriving DecidableEq

def WalkFault.message : WalkFault → String
  | path fault => fault.message
  | malformed cause => (Pointer.Fault.malformed cause).message
  | other text => text

-- Why a run stopped, with the number of the step that did not complete.
inductive RunError
  | toolNotFound (step : Nat) (name : String)
  | pointerOutOfRange (step : Nat) (arg : String) (target traceLength : Nat)
  | pointerField (step : Nat) (arg : String) (target : Nat) (field : String) (fault : WalkFault)
  | toolFailed (step : Nat) (tool : String) (error : ToolError)
  | cancelled (step : Nat)

namespace RunError

def step : RunError → Nat
  | toolNotFound step _ => step
  | pointerOutOfRange step _ _ _ => step
  | pointerField step _ _ _ _ => step
  | toolFailed step _ _ => step
  | cancelled step => step

def message : RunError → String
  | toolNotFound step name => "step " ++ toString step ++ ": tool not found: \"" ++ name ++ "\""
  | pointerOutOfRange step arg target traceLength =>
    "step " ++ toString step ++ ": pointer in arg \"" ++ arg ++ "\" references step " ++
      toString target ++ ", but only " ++ toString traceLength ++ " step(s) have completed"
  | pointerField step arg target field fault =>
    "step " ++ toString step ++ ": pointer in arg \"" ++ arg ++ "\" cannot walk \"" ++ field ++
      "\" on step " ++ toString target ++ ": " ++ fault.message
  | toolFailed step tool error =>
    "step " ++ toString step ++ ": tool \"" ++ tool ++ "\" failed: " ++ error.message
  | cancelled step => "run cancelled before step " ++ toString step

def code : RunError → String
  | toolNotFound .. => "bicameral::exec::tool_not_found"
  | pointerOutOfRange .. => "bicameral::exec::pointer_out_of_range"
  | pointerField .. => "bicameral::exec::pointer_field"
  | toolFailed .. => "bicameral::exec::tool_execution"
  | cancelled .. => "bicameral::exec::cancelled"

def help : RunError → String
  | toolNotFound .. => "Register the tool during bootstrap, before the registry is sealed."
  | pointerOutOfRange .. =>
    "A pointer may only reference a step that comes strictly before the current one."
  | pointerField .. =>
    "Fields use `.` for object keys and `[n]` or `n` for array indices. " ++
      "Inspect the referenced step's result in the partial trace."
  | toolFailed .. => "The tool encountered an error. The partial trace holds every earlier result."
  | cancelled .. =>
    "Cancellation or the run deadline was observed between steps; no further tool was started."

end RunError

end Stepwise
