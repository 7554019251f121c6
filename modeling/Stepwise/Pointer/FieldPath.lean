import Stepwise.Json.Basic
import Stepwise.Decimal.Text

namespace Stepwise

-- One step of a field path: a place in an array or a member of an object.
inductive Segment
  | index (place : Nat)
  | key (name : String)
deriving DecidableEq

namespace Segment

-- A text of digits that fits 64 bits is a place; anything else is a name.
def ofText (text : List Char) : Segment :=
  if text.all Char.isDigit ∧ Decimal.digitsValue text < 0x10000000000000000 then .index (Decimal.digitsValue text)
  else .key (String.ofList text)

def text : Segment → String
  | index place => "[" ++ toString place ++ "]"
  | key name => name

end Segment

structure FieldPath where
  segments : List Segment
deriving DecidableEq

namespace FieldPath

-- `[k]` is another way to write `.k`.
def normalize (cs : List Char) : List Char :=
  (cs.map fun c => if c = '[' then '.' else c).filter (· ≠ ']')

-- The texts between points; there is always at least one.
def pieces : List Char → List (List Char)
  | [] => [[]]
  | c :: rest =>
    if c = '.' then [] :: pieces rest
    else match pieces rest with
      | [] => [[c]]
      | piece :: more => (c :: piece) :: more

-- Empty pieces are skipped, so the empty text is the empty path.
def ofChars (cs : List Char) : FieldPath :=
  ⟨((pieces (normalize cs)).filter (· ≠ [])).map Segment.ofText⟩

def ofString (s : String) : FieldPath := ofChars s.toList

def isEmpty (path : FieldPath) : Bool := path.segments.isEmpty

-- Why a walk cannot go on, with the number of the segment it stands at.
inductive Fault
  | outOfBounds (place length depth : Nat)
  | missingKey (name : String) (depth : Nat)
  | notIndexable (segment : Segment) (typeName : String) (depth : Nat)
deriving DecidableEq

def Fault.message : Fault → String
  | outOfBounds place length depth =>
    "index " ++ toString place ++ " out of bounds (length " ++ toString length ++ ") at segment " ++
      toString depth
  | missingKey name depth => "missing key \"" ++ name ++ "\" at segment " ++ toString depth
  | notIndexable segment typeName depth =>
    "segment " ++ toString depth ++ " (" ++ segment.text ++ ") cannot index a " ++ typeName

-- A place applies to arrays only and a name to objects only.
def enter (depth : Nat) : Segment → Json → Except Fault Json
  | .index place, .arr items =>
    match items[place]? with
    | some v => .ok v
    | none => .error (.outOfBounds place items.length depth)
  | .key name, .obj members =>
    match Json.field? members name with
    | some v => .ok v
    | none => .error (.missingKey name depth)
  | segment, other => .error (.notIndexable segment other.typeName depth)

def walkFrom (depth : Nat) : List Segment → Json → Except Fault Json
  | [], v => .ok v
  | s :: rest, v =>
    match enter depth s v with
    | .ok w => walkFrom (depth + 1) rest w
    | .error e => .error e

def walk (path : FieldPath) (root : Json) : Except Fault Json := walkFrom 0 path.segments root

end FieldPath

end Stepwise
