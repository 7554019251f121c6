import Stepwise.CommandLine.Request
import Stepwise.Error
import Stepwise.Json.Printer
import Stepwise.Plan.Dependencies
import Stepwise.Plan.Template
import Stepwise.Run.Basic
import Stepwise.Settings.Reader
import Stepwise.Tool.Builtin

namespace Stepwise.CommandLine

-- What the program leaves: its status, its output, and what it has to complain about.
structure Report where
  status : Nat
  output : String
  complaint : Option String
deriving DecidableEq

def Report.done (output : String) : Report := ⟨0, output, none⟩

def Report.failed (error : Error) (output : String) : Report := ⟨1, output, some error.message⟩

def numberList (ns : List Nat) : String := "[" ++ ", ".intercalate (ns.map toString) ++ "]"

-- One line for each step, with the steps that it reads.
def stepLine (d : Dependencies) (place : Nat) (s : Step) : String :=
  let reads := d.dependencies place
  "  [" ++ toString place ++ "] " ++ s.tool ++ " (" ++ s.label ++ ")" ++
    (if reads.isEmpty then "" else " <- " ++ numberList reads) ++ "\n"

def graphText (plan : Plan) : String :=
  let d := plan.dependencies
  String.join (plan.steps.zipIdx.map fun (s, place) => stepLine d place s) ++ "Layers:\n" ++
    String.join (d.layers.zipIdx.map fun (layer, depth) =>
      "  " ++ toString depth ++ ": " ++ numberList layer ++ "\n") ++
    String.join (d.dangling.map fun (step, target) =>
      "  warning: step " ++ toString step ++ " points at missing step " ++ toString target ++ "\n")

def padded (width : Nat) (s : String) : String :=
  s ++ String.ofList (List.replicate (width - s.length) ' ')

def toolsText {σ : Type} (registry : Registry (Tool σ)) : String :=
  "Tools (" ++ toString registry.size ++ "):\n" ++
    String.join (registry.tools.entries.map fun (name, tool) =>
      "  " ++ padded 10 name ++ " " ++ tool.description ++ "\n")

def traceText (trace : List Json) : String := (Json.arr trace).pretty ++ "\n"

def helpText : String :=
  "Plan-then-execute tool agent\n\nUsage: bicameral [OPTIONS] <COMMAND>\n\nCommands:\n" ++
  "  run       Plan and execute a goal, printing the trace as JSON\n" ++
  "  validate  Validate a JSON plan file\n" ++
  "  graph     Show the step dependency layers of a JSON plan file\n" ++
  "  tools     List the built-in tools\n" ++
  "  help      Print this message or the help of the given subcommand(s)\n\n" ++
  "Options:\n      --config <CONFIG>  Path to a TOML configuration file\n" ++
  "  -h, --help             Print help\n  -V, --version          Print version\n"

def versionText : String := "bicameral 0.1.0\n"

-- What the program finds outside: the content of files, a network, and the seconds since a run began
-- just before each of its steps.
structure Surroundings (ν : Type) where
  content : String → Except String (List UInt8)
  network : Network ν
  net : ν
  elapsed : Nat → Nat

namespace Surroundings

variable {ν : Type}

def plan (s : Surroundings ν) (file : String) : Except PlanError Plan :=
  Plan.ofFile file (s.content file)

def settings (s : Surroundings ν) : Option String → Except SettingsError Settings
  | none => .ok {}
  | some file => Settings.ofFile file (s.content file)

def token (s : Surroundings ν) (settings : RunSettings) : Token (World ν) :=
  match settings.runTimeoutSecs with
  | some seconds => .deadline s.elapsed seconds
  | none => .never

-- Run a plan with an empty store, and show the results also when a step fails.
def runPlan (s : Surroundings ν) (settings : Settings) (goal : String) (plan : Plan)
    (wording : Extract.Wording := .plain) : Report :=
  match Executor.ofRegistry (builtinRegistry settings s.network wording) with
  | .error e => .failed (.registry e) ""
  | .ok executor =>
    let outcome := executor.execute (s.token settings.executor) plan (.ofGoal goal) ⟨.empty, s.net⟩
    match outcome.result with
    | .ok trace => .done (traceText trace)
    | .error failure => .failed (.run failure.error) (traceText failure.trace)

def run (s : Surroundings ν) (settings : Settings) (goal : String) (file : Option String)
    (wording : Extract.Wording := .plain) : Report :=
  let plan := match file with
    | some file => s.plan file
    | none => Plan.ofGoal settings.planner goal
  match plan with
  | .error e => .failed (.plan e) ""
  | .ok plan => s.runPlan settings goal plan wording

def perform (s : Surroundings ν) (settings : Settings) (command : Command)
    (wording : Extract.Wording := .plain) : Report :=
  match command with
  | .run goal file => s.run settings goal file wording
  | .validate file =>
    match s.plan file with
    | .error e => .failed (.plan e) ""
    | .ok plan => .done (file ++ ": valid plan with " ++ toString plan.length ++ " step(s)\n")
  | .graph file =>
    match s.plan file with
    | .error e => .failed (.plan e) ""
    | .ok plan => .done (graphText plan)
  | .tools => .done (toolsText (builtinRegistry settings s.network wording))

-- The settings are read before anything else is done.
def report (s : Surroundings ν) (request : Except UsageFault Request)
    (wording : Extract.Wording := .plain) : Report :=
  match request with
  | .error e => ⟨2, "", some e.message⟩
  | .ok .help => .done helpText
  | .ok .version => .done versionText
  | .ok (.perform file command) =>
    match s.settings file with
    | .error e => .failed (.settings e) ""
    | .ok settings => s.perform settings command wording

end Surroundings

end Stepwise.CommandLine
