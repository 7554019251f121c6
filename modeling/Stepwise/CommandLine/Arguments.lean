namespace Stepwise.CommandLine

inductive UsageFault
  | unexpected (arg : String)
  | noValue (name : String)
  | repeated (name : String)
  | missing (name : String)
  | noCommand
deriving DecidableEq

def UsageFault.message : UsageFault → String
  | unexpected arg => "unexpected argument '" ++ arg ++ "' found"
  | noValue name => "a value is required for '" ++ name ++ "' but none was supplied"
  | repeated name => "the argument '" ++ name ++ "' cannot be used multiple times"
  | missing name => "the following required argument was not provided: " ++ name
  | noCommand => "a command is required but none was supplied"

-- Whether a value may be the empty text.
inductive ValueKind
  | text
  | path
deriving DecidableEq

def ValueKind.accepts : ValueKind → String → Bool
  | text, _ => true
  | path, s => s != ""

-- What a command takes: options with a value, operands, and names of further commands. `versioned`
-- says that it tells its version.
structure Form where
  options : List (String × ValueKind)
  operands : List String
  commands : List String
  versioned : Bool

structure Given where
  values : List (String × String)
  operands : List String

-- Where reading the arguments ends.
inductive Ending
  | finished
  | help
  | version
  | command (name : String) (rest : List String)

-- A long option: its name with the dashes, and the value after an equals sign.
def longOption? (arg : String) : Option (String × Option String) :=
  match arg.toList with
  | '-' :: '-' :: body =>
    some (String.ofList ('-' :: '-' :: body.takeWhile (· ≠ '=')),
      match body.dropWhile (· ≠ '=') with
      | [] => none
      | _ :: value => some (String.ofList value))
  | _ => none

-- A dash alone is a value like any other.
def isDashed (arg : String) : Bool := arg.startsWith "-" && arg != "-"

namespace Form

def addValue (form : Form) (given : Given) (name value : String) : Except UsageFault Given :=
  match form.options.lookup name with
  | none => .error (.unexpected name)
  | some kind =>
    if !kind.accepts value then .error (.noValue name)
    else if (given.values.lookup name).isSome then .error (.repeated name)
    else .ok { given with values := given.values ++ [(name, value)] }

def addOperand (form : Form) (given : Given) (value : String) : Except UsageFault Given :=
  match form.operands[given.operands.length]? with
  | none => .error (.unexpected value)
  | some name =>
    if value = "" then .error (.noValue name)
    else .ok { given with operands := given.operands ++ [value] }

-- A flag ends the reading at once. Of several short ones in one argument the first counts.
def flag? (form : Form) (arg : String) : Option Ending :=
  if arg = "--help" ∨ arg.startsWith "-h" then some .help
  else if form.versioned ∧ (arg = "--version" ∨ arg.startsWith "-V") then some .version
  else none

-- Arguments are read from left to right, and the first fault counts. After two dashes all are
-- operands.
def read (form : Form) : Given → List String → Except UsageFault (Given × Ending)
  | given, [] => .ok (given, .finished)
  | given, arg :: rest =>
    if form.commands.contains arg then .ok (given, .command arg rest)
    else if arg = "--" then (rest.foldlM form.addOperand given).map (·, .finished)
    else if !isDashed arg then
      match form.addOperand given arg with
      | .error e => .error e
      | .ok given => read form given rest
    else match form.flag? arg, longOption? arg with
      | some ending, _ => .ok (given, ending)
      | none, none => .error (.unexpected arg)
      | none, some (name, some value) =>
        match form.addValue given name value with
        | .error e => .error e
        | .ok given => read form given rest
      | none, some (name, none) =>
        match rest with
        | [] =>
          if (form.options.lookup name).isSome then .error (.noValue name)
          else .error (.unexpected name)
        | value :: rest =>
          if (form.options.lookup name).isNone then .error (.unexpected name)
          else if isDashed value then .error (.noValue name)
          else match form.addValue given name value with
            | .error e => .error e
            | .ok given => read form given rest

end Form

end Stepwise.CommandLine
