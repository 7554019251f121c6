import Stepwise.CommandLine.Arguments

namespace Stepwise.CommandLine

inductive Command
  | run (goal : String) (plan : Option String)
  | validate (file : String)
  | graph (file : String)
  | tools
deriving DecidableEq

inductive Request
  | help
  | version
  | perform (settings : Option String) (command : Command)
deriving DecidableEq

def commandNames : List String := ["run", "validate", "graph", "tools"]

def settingsOption : String × ValueKind := ("--config", .path)

def topForm : Form := ⟨[settingsOption], [], "help" :: commandNames, true⟩

def runForm : Form := ⟨[settingsOption, ("--goal", .text), ("--plan", .path)], [], [], false⟩

def fileForm : Form := ⟨[settingsOption], ["<FILE>"], [], false⟩

def toolsForm : Form := ⟨[settingsOption], [], [], false⟩

def formOf (name : String) : Form :=
  if name = "run" then runForm else if name = "tools" then toolsForm else fileForm

def commandOf (name : String) (given : Given) : Except UsageFault Command :=
  if name = "run" then
    match given.values.lookup "--goal" with
    | some goal => .ok (.run goal (given.values.lookup "--plan"))
    | none => .error (.missing "--goal")
  else if name = "tools" then .ok .tools
  else match given.operands with
    | file :: _ => .ok (if name = "graph" then .graph file else .validate file)
    | [] => .error (.missing "<FILE>")

-- Help on a command, or on all of them.
def helpOn : List String → Except UsageFault Request
  | [] => .ok .help
  | [name] => if topForm.commands.contains name then .ok .help else .error (.unexpected name)
  | _ :: name :: _ => .error (.unexpected name)

-- The option for the settings may stand before the command or after it; the latter counts.
def Request.read (args : List String) : Except UsageFault Request := do
  let (given, ending) ← topForm.read ⟨[], []⟩ args
  match ending with
  | .help => .ok .help
  | .version => .ok .version
  | .finished => .error .noCommand
  | .command name rest =>
    if name = "help" then helpOn rest
    else
      let (inner, ending) ← (formOf name).read ⟨[], []⟩ rest
      match ending with
      | .finished => do
        let command ← commandOf name inner
        .ok (.perform ((inner.values.lookup "--config").or (given.values.lookup "--config")) command)
      | _ => .ok .help

-- The files a request reads.
def Request.files : Request → List String
  | perform settings command =>
    settings.toList ++
      match command with
      | .run _ plan => plan.toList
      | .validate file => [file]
      | .graph file => [file]
      | .tools => []
  | _ => []

end Stepwise.CommandLine
