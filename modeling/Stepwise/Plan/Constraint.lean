import Stepwise.Plan.Kind
import Stepwise.Plan.Step
import Stepwise.Predicate.Document
import Stepwise.Url.Basic

namespace Stepwise

-- One thing that a step has to satisfy.
inductive Constraint
  | knownTool (name : String)
  | text (name : String)
  | linkCount
  | address
  | pointer (name : String)
  | schema
  | selector (key : String) (value : Json)
  | operation
  | inputs
  | input (place : Nat) (value : Json)
  | params
  | predicate (value : Json)
  | action

namespace Constraint

-- How a constraint can be broken.
inductive Fault
  | unknownTool (name : String)
  | missing (name : String)
  | notText (name : String)
  | linkCountRange (count : Int)
  | linkCountType
  | address (url : String) (fault : Url.Fault)
  | notPointer (name : String)
  | malformedPointer (name : String) (cause : Pointer.Malformed)
  | schemaType
  | selectorType (key : String)
  | selectorKind (key selector : String)
  | unknownOperation (name : String)
  | inputsType
  | paramsType
  | predicate (fault : Json.ShapeFault)
  | unknownAction (name : String)
deriving DecidableEq

def Fault.message : Fault → String
  | unknownTool name =>
    "\"" ++ name ++ "\" matches no step shape (expected one of " ++
      ", ".intercalate (StepKind.all.map StepKind.toolName) ++ ")"
  | missing name => "missing required argument \"" ++ name ++ "\""
  | notText name => "\"" ++ name ++ "\" must be a string"
  | linkCountRange count => "\"top_k\" must be between 1 and 20, got " ++ toString count
  | linkCountType => "\"top_k\" must be an integer"
  | address url fault => "\"url\" is not a well-formed URI (" ++ url ++ "): " ++ fault.message
  | notPointer name => "\"" ++ name ++ "\" must be a pointer \x7b\"from\": <step>, \"field\": <path>\x7d"
  | malformedPointer name cause => "\"" ++ name ++ "\": " ++ (Pointer.Fault.malformed cause).message
  | schemaType => "\"schema\" must be an object of selectors"
  | selectorType key => "schema \"" ++ key ++ "\": selector must be a string"
  | selectorKind key written =>
    "schema \"" ++ key ++ "\": selector \"" ++ written ++ "\" must start with css:, xpath: or regex:"
  | unknownOperation name =>
    "\"op\" must be one of " ++ ", ".intercalate (Operation.all.map Operation.name) ++ ", got \"" ++
      name ++ "\""
  | inputsType => "\"inputs\" must be an array of pointers"
  | paramsType => "\"params\" must be an object"
  | predicate fault => "\"params.predicate\": " ++ Predicate.faultMessage fault
  | unknownAction name => "\"action\" must be \"write\" or \"read\", got \"" ++ name ++ "\""

-- A required text, and what a further test says about it.
def textFault? (args : Dict Json) (name : String) (test : String → Option Fault) : Option Fault :=
  match args.get? name with
  | none => some (.missing name)
  | some (.str s) => test s
  | some _ => some (.notText name)

def pointerFault? (name : String) (v : Json) : Option Fault :=
  match Pointer.detect? v with
  | some (.ok _) => none
  | some (.error cause) => some (.malformedPointer name cause)
  | none => some (.notPointer name)

def linkCountFault? (v : Json) : Option Fault :=
  match v.toInt64? with
  | some k => if allowedLinks k then none else some (.linkCountRange k)
  | none => some .linkCountType

-- How the arguments of a step break the constraint, if they do.
def fault? (args : Dict Json) : Constraint → Option Fault
  | knownTool name => some (.unknownTool name)
  | text name => textFault? args name fun _ => none
  | linkCount =>
    match args.get? "top_k" with
    | none => some (.missing "top_k")
    | some v => linkCountFault? v
  | address => textFault? args "url" fun url =>
    match Url.parse url with
    | .ok _ => none
    | .error e => some (.address url e)
  | pointer name =>
    match args.get? name with
    | none => some (.missing name)
    | some v => pointerFault? name v
  | schema =>
    match args.get? "schema" with
    | none => some (.missing "schema")
    | some (.obj _) => none
    | some _ => some .schemaType
  | selector key v =>
    match v with
    | .str s => if SelectorKind.isSelector s then none else some (.selectorKind key s)
    | _ => some (.selectorType key)
  | operation => textFault? args "op" fun name =>
    if (Operation.ofName? name).isSome then none else some (.unknownOperation name)
  | inputs =>
    match args.get? "inputs" with
    | none => some (.missing "inputs")
    | some (.arr _) => none
    | some _ => some .inputsType
  | input place v => pointerFault? ("inputs[" ++ toString place ++ "]") v
  | params =>
    match args.get? "params" with
    | none => none
    | some (.obj _) => none
    | some _ => some .paramsType
  | predicate v =>
    match Predicate.ofJson v with
    | .ok _ => none
    | .error e => some (.predicate e)
  | action => textFault? args "action" fun name =>
    if (StoreAction.ofName? name).isSome then none else some (.unknownAction name)

end Constraint

namespace Step

def kind? (s : Step) : Option StepKind := StepKind.ofToolName? s.tool

def schemaEntries (s : Step) : List (String × Json) :=
  ((s.args.get? "schema").bind Json.toObj?).getD []

def inputItems (s : Step) : List Json := ((s.args.get? "inputs").bind Json.toArr?).getD []

-- The predicate of a filter step.
def predicate? (s : Step) : Option Json :=
  if ((s.args.get? "op").bind Json.toStr?).bind Operation.ofName? = some .filter then
    ((s.args.get? "params").bind Json.toObj?).bind (Json.field? · "predicate")
  else none

-- What a step has to satisfy, in the order in which faults are reported.
def constraints (s : Step) : List Constraint :=
  match s.kind? with
  | some .search => [.text "query", .linkCount]
  | some .fetch => [.address]
  | some .parse => [.pointer "raw", .schema] ++ s.schemaEntries.map fun (key, v) => .selector key v
  | some .compute =>
    [.operation, .inputs] ++ s.inputItems.zipIdx.map (fun (v, place) => .input place v) ++ [.params] ++
      (s.predicate?.map Constraint.predicate).toList
  | some .store => [.action, .text "key"]
  | none => [.knownTool s.tool]

def faults (s : Step) : List Constraint.Fault := s.constraints.filterMap (Constraint.fault? s.args)

end Step

end Stepwise
