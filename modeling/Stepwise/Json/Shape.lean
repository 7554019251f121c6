import Stepwise.Json.Basic
import Stepwise.Decimal.Text
import Stepwise.Text.Quoted

namespace Stepwise.Json

-- What a reader of typed data wants to find.
inductive Expected
  | text
  | map
  | sequence
  | unit
  | record (name : String)
  | choice
  | plainVariant
  | recordVariant
deriving DecidableEq

def Expected.words : Expected → String
  | text => "a string"
  | map => "a map"
  | sequence => "a sequence"
  | unit => "unit"
  | record name => "struct " ++ name
  | choice => "string or map"
  | plainVariant => "newtype variant"
  | recordVariant => "struct variant"

-- What it found instead.
inductive Found
  | null
  | bool (value : Bool)
  | int (value : Int)
  | float (value : Binary64)
  | text (value : String)
  | sequence
  | map
  | unitVariant
deriving DecidableEq

def Found.words : Found → String
  | null => "null"
  | bool b => "boolean `" ++ (if b then "true" else "false") ++ "`"
  | int z => "integer `" ++ toString z ++ "`"
  | float x => "floating point `" ++ Decimal.writePositional x ++ "`"
  | text s => "string " ++ Text.quoted s
  | sequence => "sequence"
  | map => "map"
  | unitVariant => "unit variant"

def found : Json → Found
  | .null => .null
  | .bool b => .bool b
  | .num (.int z) => .int z
  | .num (.float x) => .float x
  | .str s => .text s
  | .arr _ => .sequence
  | .obj _ => .map

-- Why a value is not of the type it should be.
inductive ShapeFault
  | wrongType (found : Found) (expected : Expected)
  | notOneMember
  | unknownVariant (name : String) (known : List String)
  | missingField (name : String)
  | tooShort (length : Nat) (record : String) (fields : Nat)
  | tooLong (length : Nat)
deriving DecidableEq

def ShapeFault.message : ShapeFault → String
  | wrongType found expected => "invalid type: " ++ found.words ++ ", expected " ++ expected.words
  | notOneMember => "invalid value: map, expected map with a single key"
  | unknownVariant name known =>
    "unknown variant `" ++ name ++ "`, expected one of " ++
      ", ".intercalate (known.map fun k => "`" ++ k ++ "`")
  | missingField name => "missing field `" ++ name ++ "`"
  | tooShort length record fields =>
    "invalid length " ++ toString length ++ ", expected struct " ++ record ++ " with " ++
      toString fields ++ " elements"
  | tooLong length => "invalid length " ++ toString length ++ ", expected fewer elements in array"

abbrev Shaped (α : Type) := Except ShapeFault α

def mismatch {α : Type} (v : Json) (expected : Expected) : Shaped α :=
  .error (.wrongType v.found expected)

def asText : Json → Shaped String
  | .str s => .ok s
  | v => v.mismatch .text

def asSequence : Json → Shaped (List Json)
  | .arr items => .ok items
  | v => v.mismatch .sequence

def asDict : Json → Shaped (Dict Json)
  | .obj members => .ok (.ofList members)
  | v => v.mismatch .map

-- Read a member if it is there.
def optionalField {α : Type} (members : List (String × Json)) (name : String) (read : Json → Shaped α) :
    Shaped (Option α) :=
  match field? members name with
  | none => .ok none
  | some v => (read v).map some

def required {α : Type} (name : String) : Option α → Shaped α
  | some v => .ok v
  | none => .error (.missingField name)

end Stepwise.Json
