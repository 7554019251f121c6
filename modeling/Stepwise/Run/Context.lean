import Stepwise.Json.Shape

namespace Stepwise

-- What a tool may change in a context: the goal, scratch memory and the caller's notes.
structure Frame where
  goal : String
  memory : Dict Json
  metadata : Dict Json

-- A frame with the results of all runs: those of earlier runs, and those of the current or most
-- recent one.
structure Context where
  frame : Frame
  earlier : List Json
  current : List Json

namespace Context

open Json (Shaped optionalField required)

def ofGoal (goal : String) : Context := ⟨⟨goal, .empty, .empty⟩, [], []⟩

def withMetadata (c : Context) (name : String) (value : Json) : Context :=
  { c with frame := { c.frame with metadata := c.frame.metadata.insert name value } }

-- Every result, across all runs.
def trace (c : Context) : List Json := c.earlier ++ c.current

-- The results of the current run; entry `i` is the result of step `i`.
def runTrace (c : Context) : List Json := c.current

def beginRun (c : Context) : Context := { c with earlier := c.trace, current := [] }

def record (c : Context) (result : Json) : Context := { c with current := c.current ++ [result] }

def toJson (c : Context) : Json :=
  .obj [("goal", .str c.frame.goal), ("memory", .ofDict c.frame.memory),
    ("metadata", .ofDict c.frame.metadata), ("trace", .arr c.trace)]

-- A context as a list of its parts: goal, memory, metadata and trace, of which only the goal has to
-- be there.
def ofItems : List Json → Shaped Context
  | [] => .error (.tooShort 0 "ExecutionContext" 4)
  | goal :: rest => do
    let goal ← goal.asText
    let memory ← part rest 0 Json.asDict
    let metadata ← part rest 1 Json.asDict
    let trace ← part rest 2 Json.asSequence
    if rest.length ≤ 3 then return ⟨⟨goal, memory.getD .empty, metadata.getD .empty⟩, [], trace.getD []⟩
    else .error (.tooLong (rest.length + 1))
where
  part {α : Type} (items : List Json) (place : Nat) (read : Json → Shaped α) : Shaped (Option α) :=
    match items[place]? with
    | none => .ok none
    | some v => (read v).map some

-- Members are looked at in the order of their names.
def ofMembers (members : List (String × Json)) : Shaped Context := do
  let goal ← optionalField members "goal" Json.asText
  let memory ← optionalField members "memory" Json.asDict
  let metadata ← optionalField members "metadata" Json.asDict
  let trace ← optionalField members "trace" Json.asSequence
  let goal ← required "goal" goal
  return ⟨⟨goal, memory.getD .empty, metadata.getD .empty⟩, [], trace.getD []⟩

-- The results read count as one run.
def ofJson : Json → Shaped Context
  | .obj members => ofMembers members
  | .arr items => ofItems items
  | v => v.mismatch (.record "ExecutionContext")

end Context

end Stepwise
