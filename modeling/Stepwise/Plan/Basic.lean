import Stepwise.Plan.Error
import Stepwise.Text.Utf8

namespace Stepwise

-- The faults of all steps, in order.
def violationsFrom (place : Nat) : List Step → List Violation
  | [] => []
  | s :: rest => s.faults.map (fun f => ⟨some place, .constraint f⟩) ++ violationsFrom (place + 1) rest

def violations (steps : List Step) : List Violation := violationsFrom 0 steps

-- A list of steps that satisfies every constraint.
structure Plan where
  steps : List Step
  valid : violations steps = []

namespace Plan

def ofSteps (steps : List Step) : Except PlanError Plan :=
  match h : violations steps with
  | [] => .ok ⟨steps, h⟩
  | vs@(_ :: _) => .error (.invalid vs)

-- The elements of a document that are steps, and the faults of those that are not.
def readFrom (place : Nat) : List Json → List Step × List Violation
  | [] => ([], [])
  | v :: rest =>
    let (steps, faults) := readFrom (place + 1) rest
    match Step.ofJson v with
    | .ok s => (s :: steps, faults)
    | .error e => (steps, ⟨some place, .notStep e⟩ :: faults)

-- Constraints are looked at only when every element is a step.
def ofJson : Json → Except PlanError Plan
  | .arr items =>
    match readFrom 0 items with
    | (steps, []) => ofSteps steps
    | (_, faults) => .error (.invalid faults)
  | _ => .error (.invalid [⟨none, .notArray⟩])

def ofText (text : String) : Except PlanError Plan :=
  match Json.read text with
  | .ok v => ofJson v
  | .error e => .error (.notJson e.message)

-- The content of a plan file: its bytes, or why there are none.
def ofFile (path : String) : Except String (List UInt8) → Except PlanError Plan
  | .error detail => .error (.unreadable path detail)
  | .ok bytes =>
    match Text.decode? bytes with
    | some cs => ofText (String.ofList cs)
    | none => .error (.unreadable path "stream did not contain valid UTF-8")

def toJson (p : Plan) : Json := .arr (p.steps.map Step.toJson)

def length (p : Plan) : Nat := p.steps.length

def same (p q : Plan) : Bool :=
  p.steps.length == q.steps.length && (p.steps.zip q.steps).all fun (a, b) => a.same b

end Plan

end Stepwise
