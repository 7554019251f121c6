import Stepwise.Plan.Kind
import Stepwise.Pointer.Basic
import Stepwise.Predicate.Document
import Stepwise.Json.Printer
import Stepwise.Url.Basic

namespace Stepwise

-- What is wrong with an argument.
inductive ArgFault
  | notText
  | notObject
  | notArray
  | linkCount
  | unknownOperation (name : String)
  | unknownAction (name : String)
  | badUrl (url : String) (fault : Url.Fault)
  | notWebUrl (url : String)
  | selectorType
  | pointer (fault : Pointer.Fault)
  | other (text : String)
deriving DecidableEq

def ArgFault.message : ArgFault → String
  | notText => "expected a string"
  | notObject => "expected an object"
  | notArray => "expected an array"
  | linkCount => "expected an integer between 1 and 20"
  | unknownOperation name => "unknown op \"" ++ name ++ "\""
  | unknownAction name => "expected \"write\" or \"read\", got \"" ++ name ++ "\""
  | badUrl url fault => "\"" ++ url ++ "\" is not a valid URL: " ++ fault.message
  | notWebUrl url => "\"" ++ url ++ "\" must use http or https"
  | selectorType => "selector must be a string"
  | pointer fault => fault.message
  | other text => text

-- Why an operation on values has no result.
inductive ComputeFault
  | notPrice (value : Json)
  | tooFewInputs (count : Nat)
  | notPriceArrays
  | noPredicate
  | badPredicate (fault : Json.ShapeFault)
  | noSortKey
  | keyNotFound (item : Json) (key : String) (fault : FieldPath.Fault)
  | mixedKeys (first odd : String)
  | nothingToMerge
  | notAnObject (place : Nat) (typeName : String)
  | other (text : String)

def ComputeFault.message : ComputeFault → String
  | notPrice value => "not a price: " ++ value.compact
  | tooFewInputs count => "expected two inputs (buy, sell), got " ++ toString count
  | notPriceArrays => "both inputs must be arrays of prices"
  | noPredicate => "missing params.predicate"
  | badPredicate fault => Predicate.faultMessage fault
  | noSortKey => "missing string params.key"
  | keyNotFound item key fault =>
    "item " ++ item.compact ++ " has no sort key \"" ++ key ++ "\": " ++ fault.message
  | mixedKeys first odd =>
    "sort keys must be all numbers or all strings, found " ++ first ++ " and " ++ odd
  | nothingToMerge => "expected at least one object input"
  | notAnObject place typeName =>
    "input " ++ toString place ++ " is a " ++ typeName ++ ", expected an object"
  | other text => text

inductive ToolError
  | missingArg (tool arg : String)
  | invalidArg (tool arg : String) (fault : ArgFault)
  | pointerOutOfRange (tool arg : String) (step traceLength : Nat)
  | httpStatus (url : String) (status : Nat)
  | transport (url detail : String)
  | selector (selector detail : String)
  | compute (operation : String) (fault : ComputeFault)

namespace ToolError

def message : ToolError → String
  | missingArg tool arg => tool ++ ": missing required argument \"" ++ arg ++ "\""
  | invalidArg tool arg fault => tool ++ ": invalid argument \"" ++ arg ++ "\": " ++ fault.message
  | pointerOutOfRange tool arg step traceLength =>
    tool ++ ": pointer in \"" ++ arg ++ "\" references step " ++ toString step ++ ", but only " ++
      toString traceLength ++ " step(s) have completed"
  | httpStatus url status => "HTTP error " ++ toString status ++ " fetching \"" ++ url ++ "\""
  | transport url detail => "transport error fetching \"" ++ url ++ "\": " ++ detail
  | selector text detail => "invalid selector \"" ++ text ++ "\": " ++ detail
  | compute operation fault => "compute op \"" ++ operation ++ "\" failed: " ++ fault.message

def code : ToolError → String
  | missingArg .. => "bicameral::tool::missing_arg"
  | invalidArg .. => "bicameral::tool::invalid_arg"
  | pointerOutOfRange .. => "bicameral::tool::pointer_out_of_range"
  | httpStatus .. => "bicameral::tool::http_status"
  | transport .. => "bicameral::tool::transport"
  | selector .. => "bicameral::tool::selector"
  | compute .. => "bicameral::tool::compute"

def help? : ToolError → Option String
  | missingArg .. | invalidArg .. | compute .. => none
  | pointerOutOfRange .. =>
    some "Input pointers may only reference steps that come strictly before this one."
  | httpStatus .. => some "The server answered with a non-success status."
  | transport .. => some "Check network connectivity and that the host resolves."
  | selector .. => some "Selectors are `css:<selector>`, `xpath:<path>` or `regex:<pattern>`."

end ToolError

end Stepwise
