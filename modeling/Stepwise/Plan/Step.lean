import Stepwise.Json.Shape
import Stepwise.Pointer.Basic

namespace Stepwise

-- One call of a tool. The label is for readers only.
structure Step where
  label : String
  tool : String
  args : Dict Json

namespace Step

open Json (Shaped optionalField required)

def toJson (s : Step) : Json :=
  .obj [("args", .ofDict s.args), ("step", .str s.label), ("with", .str s.tool)]

-- A step as a list of its parts: label, tool and arguments, the last of which may be left out.
def ofItems : List Json → Shaped Step
  | [] => .error (.tooShort 1 "PlanStep" 3)
  | [label] => do
    let _ ← label.asText
    .error (.tooShort 1 "PlanStep" 3)
  | [label, tool] => do
    let label ← label.asText
    let tool ← tool.asText
    return ⟨label, tool, .empty⟩
  | label :: tool :: args :: more => do
    let label ← label.asText
    let tool ← tool.asText
    let args ← args.asDict
    if more.isEmpty then return ⟨label, tool, args⟩ else .error (.tooLong (more.length + 3))

-- Members are looked at in the order of their names. Only the tool has to be there.
def ofMembers (members : List (String × Json)) : Shaped Step := do
  let args ← optionalField members "args" Json.asDict
  let label ← optionalField members "step" Json.asText
  let tool ← optionalField members "with" Json.asText
  let tool ← required "with" tool
  return ⟨label.getD "", tool, args.getD .empty⟩

def ofJson : Json → Shaped Step
  | .obj members => ofMembers members
  | .arr items => ofItems items
  | v => v.mismatch (.record "PlanStep")

-- The pointers among the arguments, in the order of the arguments' names.
def argPointers (s : Step) : List (String × Pointer) :=
  s.args.toList.filterMap fun (name, v) => (Pointer.wellFormed? v).map (name, ·)

-- The pointers in the list of inputs.
def inputPointers (s : Step) : List Pointer :=
  match (s.args.get? "inputs").bind Json.toArr? with
  | some items => items.filterMap Pointer.wellFormed?
  | none => []

def same (a b : Step) : Bool :=
  a.label == b.label && a.tool == b.tool && Json.sameMembers a.args.toList b.args.toList

end Step

end Stepwise
