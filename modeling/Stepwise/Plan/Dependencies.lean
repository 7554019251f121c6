import Stepwise.Plan.Basic

namespace Stepwise

-- Which steps read the results of which. `edges` holds, for each step, the earlier steps that it
-- reads, in ascending order; `dangling` the pointers to the step itself or a later one.
structure Dependencies where
  edges : List (List Nat)
  dangling : List (Nat × Nat)

namespace Step

-- The steps that a step points to: first its arguments, then its inputs.
def targets (s : Step) : List Nat := (s.argPointers.map (·.2.step)) ++ s.inputPointers.map (·.step)

end Step

namespace Dependencies

-- The steps before `place` among the targets, each once and in ascending order.
def earlier (place : Nat) (targets : List Nat) : List Nat :=
  (List.range place).filter targets.contains

def ofSteps (steps : List Step) : Dependencies where
  edges := steps.zipIdx.map fun (s, place) => earlier place s.targets
  dangling := steps.zipIdx.flatMap fun (s, place) =>
    (s.targets.filter (place ≤ ·)).map fun target => (place, target)

-- The steps that a step reads, in ascending order.
def dependencies (d : Dependencies) (step : Nat) : List Nat := (d.edges[step]?).getD []

-- The steps that read a step, in ascending order.
def dependents (d : Dependencies) (step : Nat) : List Nat :=
  (List.range d.edges.length).filter fun reader => (d.dependencies reader).contains step

def size (d : Dependencies) : Nat := d.edges.length

-- The depth of each step: one more than its deepest dependency, and 0 without any.
def depths : (sofar : List Nat) → List (List Nat) → List Nat
  | sofar, [] => sofar
  | sofar, reads :: rest =>
    let depth := (reads.map fun r => (sofar[r]?).getD 0 + 1).foldl max 0
    depths (sofar ++ [depth]) rest

def depth (d : Dependencies) (step : Nat) : Nat := ((depths [] d.edges)[step]?).getD 0

-- The layers with one more step, in the layer of its depth. Layers up to that one are made as they
-- are needed.
def join (layers : List (List Nat)) (step depth : Nat) : List (List Nat) :=
  (layers ++ List.replicate (depth + 1 - layers.length) []).modify depth (· ++ [step])

-- The steps of each depth, for the depths of all steps in order.
def grouped (depths : List Nat) : List (List Nat) :=
  depths.zipIdx.foldl (fun layers (depth, step) => join layers step depth) []

def layers (d : Dependencies) : List (List Nat) := grouped (depths [] d.edges)

end Dependencies

namespace Plan

def dependencies (p : Plan) : Dependencies := .ofSteps p.steps

end Plan

end Stepwise
