import Stepwise.Predicate.Basic
import Stepwise.Json.Shape

namespace Stepwise

open Json (Shaped ShapeFault field? mismatch optionalField required)

namespace Comparison

def ofName? (s : String) : Option Comparison := all.find? fun op => op.name == s

def toJson (op : Comparison) : Json := .str op.name

-- A bare name, or an object whose only member has that name and no content.
def ofJson : Json → Shaped Comparison
  | .str s => known s
  | .obj [(s, content)] =>
    match known s with
    | .error e => .error e
    | .ok op =>
      match content with
      | .null => .ok op
      | other => other.mismatch .unit
  | .obj _ => .error .notOneMember
  | v => v.mismatch .choice
where
  known (s : String) : Shaped Comparison :=
    match ofName? s with
    | some op => .ok op
    | none => .error (.unknownVariant s (all.map name))

end Comparison

namespace Predicate

mutual

def toJson : Predicate → Json
  | all parts => .obj [("all", .arr (toJsonList parts))]
  | any parts => .obj [("any", .arr (toJsonList parts))]
  | negate part => .obj [("not", part.toJson)]
  | present field => .obj [("exists", .obj [("field", .str field)])]
  | compare field op value =>
    .obj [("compare", .obj [("field", .str field), ("op", op.toJson), ("value", value)])]

def toJsonList : List Predicate → List Json
  | [] => []
  | p :: rest => p.toJson :: toJsonList rest

end

def variants : List String := ["all", "any", "not", "exists", "compare"]

def readPresent : Json → Shaped Predicate
  | .obj members => do
    let field ← optionalField members "field" Json.asText
    present <$> required "field" field
  | v => v.mismatch .recordVariant

-- Members are looked at in the order of their names; absent ones are reported after that.
def readCompare : Json → Shaped Predicate
  | .obj members => do
    let field ← optionalField members "field" Json.asText
    let op ← optionalField members "op" Comparison.ofJson
    let value := field? members "value"
    let field ← required "field" field
    let op ← required "op" op
    compare field op <$> required "value" value
  | v => v.mismatch .recordVariant

-- A variant's name without content.
def readBare (s : String) : Shaped Predicate :=
  if s = "all" ∨ s = "any" ∨ s = "not" then .error (.wrongType .unitVariant .plainVariant)
  else if s = "exists" ∨ s = "compare" then .error (.wrongType .unitVariant .recordVariant)
  else .error (.unknownVariant s variants)

mutual

-- An object whose only member names the variant.
def ofJson : Json → Shaped Predicate
  | .str s => readBare s
  | .obj [(s, content)] =>
    if s = "all" then (ofJsonArray content).map all
    else if s = "any" then (ofJsonArray content).map any
    else if s = "not" then (ofJson content).map negate
    else if s = "exists" then readPresent content
    else if s = "compare" then readCompare content
    else .error (.unknownVariant s variants)
  | .obj _ => .error .notOneMember
  | v => v.mismatch .choice

def ofJsonArray : Json → Shaped (List Predicate)
  | .arr items => ofJsonList items
  | v => v.mismatch .sequence

def ofJsonList : List Json → Shaped (List Predicate)
  | [] => .ok []
  | v :: rest =>
    match ofJson v with
    | .error e => .error e
    | .ok p => (ofJsonList rest).map (p :: ·)

end

def faultMessage (e : ShapeFault) : String := "invalid predicate: " ++ e.message

end Predicate

end Stepwise
