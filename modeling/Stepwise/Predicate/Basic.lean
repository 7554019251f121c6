import Stepwise.Pointer.FieldPath
import Stepwise.Text.Blank

namespace Stepwise

inductive Comparison
  | eq | ne | lt | le | gt | ge | contains
deriving DecidableEq

-- A boolean test over one item, written as plain data.
inductive Predicate
  | all (parts : List Predicate)
  | any (parts : List Predicate)
  | negate (part : Predicate)
  | present (field : String)
  | compare (field : String) (op : Comparison) (value : Json)

namespace Json

-- Equality of values, except that two numbers compare as doubles.
def looselyEqual : Json → Json → Bool
  | .num x, .num y => x.toBinary64.numEq y.toBinary64
  | a, b => a.same b

-- Two numbers compare as doubles and two texts by their code points; nothing else has an order.
def order? : Json → Json → Option Ordering
  | .num x, .num y => some (x.toBinary64.compare y.toBinary64)
  | .str a, .str b => some (Ord.compare a b)
  | _, _ => none

-- A text holds its parts, an array the values equal to an item, an object the names of its members.
def holds : Json → Json → Bool
  | .str haystack, .str needle => Text.contains needle.toList haystack.toList
  | .arr items, needle => items.any fun v => v.looselyEqual needle
  | .obj members, .str name => (field? members name).isSome
  | _, _ => false

end Json

namespace Comparison

def all : List Comparison := [eq, ne, lt, le, gt, ge, contains]

def name : Comparison → String
  | eq => "eq"
  | ne => "ne"
  | lt => "lt"
  | le => "le"
  | gt => "gt"
  | ge => "ge"
  | contains => "contains"

def test (actual : Json) (op : Comparison) (expected : Json) : Bool :=
  match op with
  | eq => actual.looselyEqual expected
  | ne => !actual.looselyEqual expected
  | lt => actual.order? expected == some .lt
  | le => actual.order? expected == some .lt || actual.order? expected == some .eq
  | gt => actual.order? expected == some .gt
  | ge => actual.order? expected == some .gt || actual.order? expected == some .eq
  | contains => actual.holds expected

end Comparison

namespace Predicate

-- A field that is absent makes a comparison false.
def evaluate (item : Json) : Predicate → Bool
  | all parts => evaluateAll item parts
  | any parts => evaluateAny item parts
  | negate part => !part.evaluate item
  | present field => ((FieldPath.ofString field).walk item).isOk
  | compare field op value =>
    match (FieldPath.ofString field).walk item with
    | .ok actual => op.test actual value
    | .error _ => false
where
  evaluateAll (item : Json) : List Predicate → Bool
    | [] => true
    | p :: rest => p.evaluate item && evaluateAll item rest
  evaluateAny (item : Json) : List Predicate → Bool
    | [] => false
    | p :: rest => p.evaluate item || evaluateAny item rest

end Predicate

end Stepwise
