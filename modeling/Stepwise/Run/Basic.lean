import Stepwise.Plan.Basic
import Stepwise.Run.Error
import Stepwise.Tool.Basic
import Stepwise.Tool.Registry

namespace Stepwise

-- The error of a pointer argument that has no value.
def pointerError (step : Nat) (arg : String) (p : Pointer) : Pointer.Fault → RunError
  | .outOfRange target traceLength => .pointerOutOfRange step arg target traceLength
  | .path fault => .pointerField step arg p.step p.field (.path fault)
  | .malformed cause => .pointerField step arg p.step p.field (.malformed cause)

-- What can be read of a malformed pointer.
def readablePart (v : Json) : Pointer :=
  match v with
  | .obj members =>
    ⟨((Json.field? members "from").bind Json.toUInt64?).getD 0,
      ((Json.field? members "field").bind Json.toStr?).getD ""⟩
  | _ => ⟨0, ""⟩

def resolveArg (step : Nat) (trace : List Json) (arg : String) (v : Json) : Except RunError Json :=
  match Pointer.detect? v with
  | none => .ok v
  | some (.error cause) => .error (pointerError step arg (readablePart v) (.malformed cause))
  | some (.ok p) =>
    match p.resolve trace with
    | .ok w => .ok w
    | .error e => .error (pointerError step arg p e)

def resolveEntries (step : Nat) (trace : List Json) :
    List (String × Json) → Except RunError (List (String × Json))
  | [] => .ok []
  | (arg, v) :: rest =>
    match resolveArg step trace arg v with
    | .error e => .error e
    | .ok w => (resolveEntries step trace rest).map ((arg, w) :: ·)

-- The arguments of a step, each pointer among them replaced by what it points to. Values inside
-- other values stay as they are.
def resolveArgs (step : Nat) (s : Step) (trace : List Json) : Except RunError Args :=
  (resolveEntries step trace s.args.toList).map Dict.ofList

-- Tells, just before a step, whether the run is to stop.
abbrev Token (σ : Type) := (step : Nat) → σ → Bool

namespace Token

variable {σ : Type}

def never : Token σ := fun _ _ => false

-- Stops a run once the seconds that have passed before a step reach the limit.
def deadline (elapsed : Nat → Nat) (seconds : Nat) : Token σ := fun step _ => seconds ≤ elapsed step

end Token

inductive RunState
  | validated
  | running (step : Nat)
  | completed
  | failed (step : Nat)
deriving DecidableEq

namespace RunState

def isTerminal : RunState → Bool
  | validated | running _ => false
  | completed | failed _ => true

def text : RunState → String
  | validated => "Validated"
  | running step => "Running \x7b step: " ++ toString step ++ " \x7d"
  | completed => "Completed"
  | failed step => "Failed \x7b step: " ++ toString step ++ " \x7d"

end RunState

-- A failed run: the error, the state in which the run ends, and the results of the steps before it.
structure Failure where
  error : RunError
  state : RunState
  trace : List Json

def Failure.failedStep (f : Failure) : Nat := f.error.step

namespace Run

variable {σ : Type}

-- Carry out one step.
def step (registry : Registry (Tool σ)) (token : Token σ) (place : Nat) (s : Step)
    (context : Context) (world : σ) : Except RunError Unit × Context × σ :=
  if token place world then (.error (.cancelled place), context, world)
  else match registry.resolve s.tool with
  | .error _ => (.error (.toolNotFound place s.tool), context, world)
  | .ok tool =>
    match resolveArgs place s context.runTrace with
    | .error e => (.error e, context, world)
    | .ok args =>
      match tool.call args context world with
      | (.error e, frame, world) => (.error (.toolFailed place s.tool e), { context with frame }, world)
      | (.ok v, frame, world) => (.ok (), { context with frame }.record v, world)

-- Carry out steps in order, up to the first that fails. There the run ends, and with the error
-- comes the state in which it does.
def steps (registry : Registry (Tool σ)) (token : Token σ) (place : Nat) :
    List Step → Context → σ → Except (RunError × RunState) Unit × Context × σ
  | [], context, world => (.ok (), context, world)
  | s :: rest, context, world =>
    match step registry token place s context world with
    | (.error e, context, world) => (.error (e, .failed place), context, world)
    | (.ok (), context, world) => steps registry token (place + 1) rest context world

end Run

-- What a run ends with: its results or its failure, and the context and the world it leaves.
structure Outcome (σ : Type) where
  result : Except Failure (List Json)
  context : Context
  world : σ

-- A registry that is sealed, so that no run sees it change.
structure Executor (σ : Type) where
  registry : Registry (Tool σ)
  isSealed : registry.isSealed = true

namespace Executor

variable {σ : Type}

def ofRegistry (registry : Registry (Tool σ)) : Except RegistryError (Executor σ) :=
  if h : registry.isSealed = true then .ok ⟨registry, h⟩ else .error .notSealed

def execute (e : Executor σ) (token : Token σ) (plan : Plan) (context : Context) (world : σ) :
    Outcome σ :=
  match Run.steps e.registry token 0 plan.steps context.beginRun world with
  | (.ok (), context, world) => ⟨.ok context.runTrace, context, world⟩
  | (.error (error, state), context, world) =>
    ⟨.error ⟨error, state, context.runTrace⟩, context, world⟩

end Executor

end Stepwise
