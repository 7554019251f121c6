import Stepwise.Tool.Basic

namespace Stepwise.Compute

def name : String := "Compute"

-- An input that points to a result stands for it; any other input stands for itself.
def resolveInput (trace : List Json) (place : Nat) (v : Json) : Except ToolError Json :=
  let arg := "inputs[" ++ toString place ++ "]"
  match Pointer.detect? v with
  | none => .ok v
  | some (.error cause) => .error (.invalidArg name arg (.pointer (.malformed cause)))
  | some (.ok p) =>
    match p.resolve trace with
    | .ok w => .ok w
    | .error (.outOfRange step length) => .error (.pointerOutOfRange name arg step length)
    | .error e => .error (.invalidArg name arg (.pointer e))

def resolveInputsFrom (trace : List Json) (place : Nat) : List Json → Except ToolError (List Json)
  | [] => .ok []
  | v :: rest =>
    match resolveInput trace place v with
    | .error e => .error e
    | .ok w => (resolveInputsFrom trace (place + 1) rest).map (w :: ·)

def resolveInputs (args : Args) (trace : List Json) : Except ToolError (List Json) :=
  match args.get? "inputs" with
  | none => .ok []
  | some (.arr items) => resolveInputsFrom trace 0 items
  | some _ => .error (.invalidArg name "inputs" .notArray)

-- An array contributes its elements, any other value itself.
def flatten (inputs : List Json) : List Json :=
  inputs.flatMap fun v =>
    match v with
    | .arr items => items
    | other => [other]

-- Dollar signs, commas and white space do not count in a price.
def isPriceFiller (c : Char) : Bool := c == '$' || c == ',' || Text.isBlank c

def price? : Json → Option Binary64
  | .num n => some n.toBinary64
  | .str s => Decimal.read? (s.toList.filter (!isPriceFiller ·))
  | _ => none

def price (v : Json) : Except ComputeFault Binary64 :=
  match price? v with
  | some x => .ok x
  | none => .error (.notPrice v)

def normalizePrices (inputs : List Json) : Except ComputeFault Json :=
  ((flatten inputs).mapM price).map fun prices => .arr (prices.map fun x => .num (.float x))

-- What selling brings over buying; beyond the range of doubles there is no number for it.
def margin (buy sell : Json) : Except ComputeFault Json := do
  let s ← price sell
  let b ← price buy
  return match s.sub? b with
    | some x => .num (.float x)
    | none => .null

def marginCalculation : List Json → Except ComputeFault Json
  | .arr buy :: .arr sell :: _ => ((buy.zip sell).mapM fun (b, s) => margin b s).map .arr
  | _ :: _ :: _ => .error .notPriceArrays
  | inputs => .error (.tooFewInputs inputs.length)

def filter (inputs : List Json) (params : List (String × Json)) : Except ComputeFault Json :=
  match Json.field? params "predicate" with
  | none => .error .noPredicate
  | some document =>
    match Predicate.ofJson document with
    | .error e => .error (.badPredicate e)
    | .ok predicate => .ok (.arr ((flatten inputs).filter fun item => predicate.evaluate item))

def isSortable : Json → Bool
  | .num _ => true
  | .str _ => true
  | _ => false

def keyed (path : FieldPath) (key : String) (item : Json) : Except ComputeFault (Json × Json) :=
  match path.walk item with
  | .ok k => .ok (k, item)
  | .error e => .error (.keyNotFound item key e)

-- The first key that is neither a number nor a text, or is not of the kind of the first key.
def oddKey? (keys : List Json) : Option (String × String) :=
  match keys with
  | [] => none
  | first :: _ =>
    (keys.find? fun k => k.typeName != first.typeName || !isSortable k).map fun odd =>
      (first.typeName, odd.typeName)

def inOrder (descending : Bool) (a b : Json × Json) : Bool :=
  a.1.order? b.1 != some (if descending then .lt else .gt)

-- Items with equal keys keep their order, in both directions.
def sort (inputs : List Json) (params : List (String × Json)) : Except ComputeFault Json :=
  match (Json.field? params "key").bind Json.toStr? with
  | none => .error .noSortKey
  | some key => do
    let descending := ((Json.field? params "descending").bind Json.toBool?).getD false
    let pairs ← (flatten inputs).mapM (keyed (.ofString key) key)
    match oddKey? (pairs.map (·.1)) with
    | some (first, odd) => throw (.mixedKeys first odd)
    | none => return .arr ((pairs.mergeSort (inOrder descending)).map (·.2))

def mergeFrom (place : Nat) (merged : Dict Json) : List Json → Except ComputeFault (Dict Json)
  | [] => .ok merged
  | .obj members :: rest => mergeFrom (place + 1) (merged.insertAll members) rest
  | v :: _ => .error (.notAnObject place v.typeName)

-- Later objects win.
def merge (inputs : List Json) : Except ComputeFault Json :=
  if inputs.isEmpty then .error .nothingToMerge
  else (mergeFrom 0 .empty inputs).map .ofDict

def apply (operation : Operation) (inputs : List Json) (params : List (String × Json)) :
    Except ComputeFault Json :=
  match operation with
  | .normalizePrices => normalizePrices inputs
  | .marginCalculation => marginCalculation inputs
  | .filter => filter inputs params
  | .sort => sort inputs params
  | .merge => merge inputs

def result (args : Args) (trace : List Json) : Except ToolError Json := do
  let opName ← args.requireText "op" name
  match Operation.ofName? opName with
  | none => throw (.invalidArg name "op" (.unknownOperation opName))
  | some operation =>
    let inputs ← resolveInputs args trace
    let params ← match args.get? "params" with
      | none => pure []
      | some (.obj members) => pure members
      | some _ => throw (.invalidArg name "params" .notObject)
    match apply operation inputs params with
    | .ok v => return v
    | .error e => throw (.compute operation.name e)

def tool {σ : Type} : Tool σ :=
  .pure name "Data operations over step results (args: op, inputs, params)." result

end Stepwise.Compute
