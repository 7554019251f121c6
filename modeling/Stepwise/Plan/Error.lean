import Stepwise.Plan.Constraint
import Stepwise.Json.Reader

namespace Stepwise

-- One fault of a plan document: of the step with that number, or of the document as a whole.
inductive Violation.Cause
  | notArray
  | notStep (fault : Json.ShapeFault)
  | constraint (fault : Constraint.Fault)
  | other (text : String)
deriving DecidableEq

structure Violation where
  step : Option Nat
  cause : Violation.Cause
deriving DecidableEq

namespace Violation

def Cause.message : Cause → String
  | notArray => "plan document must be an array"
  | notStep fault => "not a step object: " ++ fault.message
  | constraint fault => fault.message
  | other text => text

def message (v : Violation) : String := v.cause.message

-- The fault with its place.
def line (v : Violation) : String :=
  match v.step with
  | some step => "step " ++ toString step ++ ": " ++ v.message
  | none => "plan: " ++ v.message

end Violation

inductive PlanError
  | invalid (violations : List Violation)
  | unreadable (path detail : String)
  | notJson (detail : String)
deriving DecidableEq

namespace PlanError

def message : PlanError → String
  | invalid violations =>
    "plan failed validation (" ++ toString violations.length ++ " violation(s)): " ++
      "; ".intercalate (violations.map Violation.line)
  | unreadable path detail => "failed to read plan document \"" ++ path ++ "\": " ++ detail
  | notJson detail => "plan document is not valid JSON: " ++ detail

def code : PlanError → String
  | invalid _ => "bicameral::plan::validation"
  | unreadable _ _ => "bicameral::plan::read"
  | notJson _ => "bicameral::plan::json"

def help : PlanError → String
  | invalid _ =>
    "Every step must match one of the search/fetch/parse/compute/store shapes. " ++
      "No step of an invalid plan is ever executed."
  | unreadable _ _ => "Check that the plan file exists and is readable."
  | notJson _ =>
    "A plan document is a JSON array of step objects with `step`, `with` and `args` keys."

end PlanError

end Stepwise
