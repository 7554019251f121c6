import Stepwise.Pointer.FieldPath

namespace Stepwise

-- A reference to a field of an earlier step's result, written `{"from": step, "field": path}`.
structure Pointer where
  step : Nat
  field : String
deriving DecidableEq

namespace Pointer

inductive Malformed
  | step
  | field
deriving DecidableEq

def Malformed.message : Malformed → String
  | step => "`from` must be a non-negative integer"
  | field => "`field` must be a string"

-- Why a value that looks like a pointer gives no result.
inductive Fault
  | outOfRange (step traceLength : Nat)
  | path (fault : FieldPath.Fault)
  | malformed (cause : Malformed)
deriving DecidableEq

def Fault.message : Fault → String
  | outOfRange step traceLength =>
    "step " ++ toString step ++ " is not in a trace of length " ++ toString traceLength
  | path fault => fault.message
  | malformed cause => "malformed pointer: " ++ cause.message

-- An object with exactly the members `from` and `field`, of whatever types.
def hasShape : Json → Bool
  | .obj members =>
    members.length == 2 && (Json.field? members "from").isSome && (Json.field? members "field").isSome
  | _ => false

-- The members of a value of pointer shape, read with their types.
def ofMembers (members : List (String × Json)) : Except Malformed Pointer :=
  match (Json.field? members "from").bind Json.toUInt64?,
    (Json.field? members "field").bind Json.toStr? with
  | none, _ => .error .step
  | _, none => .error .field
  | some step, some field => .ok ⟨step, field⟩

-- `none` for a literal.
def detect? : Json → Option (Except Malformed Pointer)
  | .obj members => if hasShape (.obj members) then some (ofMembers members) else none
  | _ => none

def wellFormed? (v : Json) : Option Pointer :=
  match detect? v with
  | some (.ok p) => some p
  | _ => none

def toJson (p : Pointer) : Json := .obj [("field", .str p.field), ("from", .ofNat p.step)]

-- There are results of the completed steps only.
def resolve (p : Pointer) (results : List Json) : Except Fault Json :=
  match results[p.step]? with
  | none => .error (.outOfRange p.step results.length)
  | some root =>
    match (FieldPath.ofString p.field).walk root with
    | .ok v => .ok v
    | .error e => .error (.path e)

end Pointer

end Stepwise
