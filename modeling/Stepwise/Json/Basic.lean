import Stepwise.Dict
import Stepwise.Decimal.Binary64

namespace Stepwise

-- A number is an integer or a double, and stays what it was written as.
inductive Number
  | int (value : Int)
  | float (value : Binary64)
deriving DecidableEq

-- The members of an object stand in ascending order of their names, each name once.
inductive Json
  | null
  | bool (value : Bool)
  | num (value : Number)
  | str (value : String)
  | arr (items : List Json)
  | obj (members : List (String × Json))

namespace Number

def toBinary64 : Number → Binary64
  | .int z => .ofInt z
  | .float x => x

-- Equality of numbers of the same kind, floats by value; an integer never equals a float.
def same : Number → Number → Bool
  | .int a, .int b => a == b
  | .float x, .float y => x.numEq y
  | _, _ => false

def toUInt64? : Number → Option Nat
  | .int z => if 0 ≤ z ∧ z < 0x10000000000000000 then some z.toNat else none
  | .float _ => none

def toInt64? : Number → Option Int
  | .int z => if -0x8000000000000000 ≤ z ∧ z < 0x8000000000000000 then some z else none
  | .float _ => none

end Number

namespace Json

instance : Inhabited Json := ⟨.null⟩

def ofNat (n : Nat) : Json := .num (.int n)

def ofInt (z : Int) : Json := .num (.int z)

def ofDict (d : Dict Json) : Json := .obj d.entries

-- The object with the given members, in any order.
def object (members : List (String × Json)) : Json := ofDict (Dict.ofList members)

def strings (texts : List String) : Json := .arr (texts.map .str)

mutual

-- Content equality: objects member by member, floats by value.
def same : Json → Json → Bool
  | null, null => true
  | bool a, bool b => a == b
  | num a, num b => a.same b
  | str a, str b => a == b
  | arr a, arr b => sameItems a b
  | obj a, obj b => sameMembers a b
  | _, _ => false

def sameItems : List Json → List Json → Bool
  | [], [] => true
  | a :: as, b :: bs => a.same b && sameItems as bs
  | _, _ => false

def sameMembers : List (String × Json) → List (String × Json) → Bool
  | [], [] => true
  | (k, a) :: as, (l, b) :: bs => k == l && a.same b && sameMembers as bs
  | _, _ => false

end

def field? (members : List (String × Json)) (name : String) : Option Json := members.lookup name

def toUInt64? : Json → Option Nat
  | num n => n.toUInt64?
  | _ => none

def toInt64? : Json → Option Int
  | num n => n.toInt64?
  | _ => none

def toStr? : Json → Option String
  | str s => some s
  | _ => none

def toBool? : Json → Option Bool
  | bool b => some b
  | _ => none

def toArr? : Json → Option (List Json)
  | arr items => some items
  | _ => none

def toObj? : Json → Option (List (String × Json))
  | obj members => some members
  | _ => none

-- The kind of a value, as messages name it.
def typeName : Json → String
  | null => "null"
  | bool _ => "boolean"
  | num _ => "number"
  | str _ => "string"
  | arr _ => "array"
  | obj _ => "object"

end Json

end Stepwise
