import Stepwise.Selector.Value

namespace Stepwise.Selector

-- Attributes of html whose values do not depend on case.
def caselessAttributes : List String :=
  ["accept", "accept-charset", "align", "alink", "axis", "bgcolor", "charset", "checked", "clear",
   "codetype", "color", "compact", "declare", "defer", "dir", "direction", "disabled", "enctype",
   "face", "frame", "hreflang", "http-equiv", "lang", "language", "link", "media", "method",
   "multiple", "nohref", "noresize", "noshade", "nowrap", "readonly", "rel", "rev", "rules", "scope",
   "scrolling", "selected", "shape", "target", "text", "type", "valign", "valuetype", "vlink"]

def lower (s : String) : List Char := Text.lowerAscii s.toList

def operator? : Token → Option Operator
  | .operator op => some op
  | .delim '=' => some .equal
  | _ => none

-- The name of an attribute, and whether it may be of any vocabulary.
def readAttrName : List Value → Option (Bool × String × List Value)
  | .token (.delim '*') :: .token (.delim '|') :: .token (.ident name) :: rest =>
    some (true, name, rest)
  | .token (.delim '|') :: .token (.ident name) :: rest => some (false, name, rest)
  | .token (.ident _) :: .token (.delim '|') :: _ => none
  | .token (.ident name) :: rest => some (false, name, rest)
  | _ => none

-- The letter behind a value that says whether case counts.
def readCaseRule (anySpace : Bool) (name : String) (vs : List Value) : Option CaseRule :=
  match skipSpaces vs with
  | [] =>
    some (if !anySpace && caselessAttributes.contains (String.ofList (lower name)) then .byElement
      else .counts)
  | .token (.ident flag) :: rest =>
    if skipSpaces rest matches _ :: _ then none
    else if lower flag = ['i'] then some .ignored
    else if lower flag = ['s'] then some .counts
    else none
  | _ => none

-- What stands between square brackets.
def readAttr (vs : List Value) : Option Simple := do
  let (anySpace, name, rest) ← readAttrName (skipSpaces vs)
  match skipSpaces rest with
  | [] => return .attr anySpace name none
  | .token t :: rest =>
    let op ← operator? t
    match skipSpaces rest with
    | .token (.ident value) :: rest | .token (.string value) :: rest =>
      return .attr anySpace name (some ⟨op, value, ← readCaseRule anySpace name rest⟩)
    | _ => none
  | _ => none

-- `n-` and digits, which count down from zero.
def countDown? : List Char → Option Int
  | n :: '-' :: digits =>
    if n.toLower = 'n' ∧ digits ≠ [] ∧ digits.all Char.isDigit then
      let value := digits.foldl (fun n d => n * 10 + (d.toNat - '0'.toNat)) 0
      some (Token.saturate (-value))
    else none
  | _ => none

-- A number without a sign and nothing behind it.
def readPlain (step sign : Int) (vs : List Value) : Option Progression :=
  match skipSpaces vs with
  | .token (.number false (some b)) :: rest =>
    if skipSpaces rest matches [] then some ⟨step, sign * b⟩ else none
  | _ => none

-- What may stand behind `n`.
def readOffset (step : Int) (vs : List Value) : Option Progression :=
  match skipSpaces vs with
  | [] => some ⟨step, 0⟩
  | .token (.delim '+') :: rest => readPlain step 1 rest
  | .token (.delim '-') :: rest => readPlain step (-1) rest
  | .token (.number true (some b)) :: rest =>
    if skipSpaces rest matches [] then some ⟨step, b⟩ else none
  | _ => none

-- What stands behind the number of steps; `unit` begins with `n`.
def readSteps (step : Int) (unit : List Char) (vs : List Value) : Option Progression :=
  if Text.lowerAscii unit = ['n'] then readOffset step vs
  else if Text.lowerAscii unit = ['n', '-'] then readPlain step (-1) vs
  else match countDown? unit with
    | some b => if skipSpaces vs matches [] then some ⟨step, b⟩ else none
    | none => none

def readProgression (vs : List Value) : Option Progression :=
  match skipSpaces vs with
  | .token (.number _ (some b)) :: rest =>
    if skipSpaces rest matches [] then some ⟨0, b⟩ else none
  | .token (.dimension (some a) unit) :: rest => readSteps a unit.toList rest
  | .token (.ident name) :: rest =>
    if lower name = "even".toList then if skipSpaces rest matches [] then some ⟨2, 0⟩ else none
    else if lower name = "odd".toList then if skipSpaces rest matches [] then some ⟨2, 1⟩ else none
    else match name.toList with
      | '-' :: unit => readSteps (-1) unit rest
      | unit => readSteps 1 unit rest
  | .token (.delim '+') :: .token (.ident name) :: rest => readSteps 1 name.toList rest
  | _ => none

-- How the selectors of a list may be written: whether one that cannot be read spoils the list,
-- whether each starts from an element, and whether `:has()` may stand in it.
structure Mode where
  forgiving : Bool
  relative : Bool
  hasAllowed : Bool
deriving DecidableEq

-- Reads the selectors between the brackets of a pseudo-class.
abbrev Inner := Mode → List Value → Option (List Complex)

def firstIndex : Progression := ⟨0, 1⟩

def plainClass? (name : String) : Option Simple :=
  match String.ofList (lower name) with
  | "root" | "scope" => some .root
  | "empty" => some .empty
  | "first-child" => some (.nth false false firstIndex)
  | "last-child" => some (.nth false true firstIndex)
  | "only-child" => some (.only false)
  | "first-of-type" => some (.nth true false firstIndex)
  | "last-of-type" => some (.nth true true firstIndex)
  | "only-of-type" => some (.only true)
  | _ => none

def classWithContent? (inner : Inner) (hasAllowed : Bool) (name : String) (content : List Value) :
    Option Simple :=
  match String.ofList (lower name) with
  | "nth-child" => (readProgression content).map (.nth false false)
  | "nth-last-child" => (readProgression content).map (.nth false true)
  | "nth-of-type" => (readProgression content).map (.nth true false)
  | "nth-last-of-type" => (readProgression content).map (.nth true true)
  | "is" | "where" => (inner ⟨true, false, hasAllowed⟩ content).map .either
  | "not" => (inner ⟨false, false, hasAllowed⟩ content).map .neither
  | "has" => if hasAllowed then (inner ⟨false, true, false⟩ content).map .has else none
  | _ => none

-- From here on a failure leaves behind what is not read yet.

-- What may stand behind the bar of a name.
def readBarred (outside : List Simple) : List Value → Except (List Value) (List Simple × List Value)
  | .token (.delim '*') :: rest => .ok (outside ++ [.universal], rest)
  | .token (.ident name) :: rest => .ok (outside ++ [.name name], rest)
  | _ :: rest => .error rest
  | [] => .error []

-- The name of an element, if one stands here. No prefix is known.
def readName : List Value → Except (List Value) (List Simple × List Value)
  | .token (.ident _) :: .token (.delim '|') :: rest => .error rest
  | .token (.ident name) :: rest => .ok ([.name name], rest)
  | .token (.delim '*') :: .token (.delim '|') :: rest => readBarred [] rest
  | .token (.delim '*') :: rest => .ok ([.universal], rest)
  | .token (.delim '|') :: rest => readBarred [.noSpace] rest
  | rest => .ok ([], rest)

-- One condition on an element, if one stands here.
def readSimple (inner : Inner) (hasAllowed : Bool) :
    List Value → Except (List Value) (Option Simple × List Value)
  | .token (.hash true name) :: rest => .ok (some (.id name), rest)
  | .token (.delim '.') :: .token (.ident name) :: rest => .ok (some (.className name), rest)
  | .token (.delim '.') :: rest => .error rest.tail
  | .block .square content :: rest =>
    match readAttr content with
    | some s => .ok (some s, rest)
    | none => .error rest
  | .token .colon :: .token (.ident name) :: rest =>
    match plainClass? name with
    | some s => .ok (some s, rest)
    | none => .error rest
  | .token .colon :: .block (.function name) content :: rest =>
    match classWithContent? inner hasAllowed name content with
    | some s => .ok (some s, rest)
    | none => .error rest
  | .token .colon :: .token .colon :: rest => .error rest.tail
  | .token .colon :: rest => .error rest.tail
  | rest => .ok (none, rest)

theorem length_readSimple {inner : Inner} {hasAllowed : Bool} {vs rest : List Value} {s : Simple}
    (h : readSimple inner hasAllowed vs = .ok (some s, rest)) : rest.length < vs.length := by
  unfold readSimple at h
  repeat' split at h
  all_goals first
    | (cases h; done)
    | (cases h; simp only [List.length_cons]; omega)

def readSimples (inner : Inner) (hasAllowed : Bool) (vs : List Value) :
    Except (List Value) (List Simple × List Value) :=
  match h : readSimple inner hasAllowed vs with
  | .error rest => .error rest
  | .ok (none, rest) => .ok ([], rest)
  | .ok (some s, rest) => do
    have := length_readSimple h
    let (more, rest) ← readSimples inner hasAllowed rest
    return (s :: more, rest)
termination_by vs.length

-- The conditions on one element; at least one.
def readCompound (inner : Inner) (hasAllowed : Bool) (vs : List Value) :
    Except (List Value) (List Simple × List Value) := do
  let (name, rest) ← readName (skipSpaces vs)
  let (more, rest) ← readSimples inner hasAllowed rest
  if name ++ more matches [] then throw rest
  return (name ++ more, rest)

def readCombinator (spaces : Bool) : List Value → Option (Combinator × List Value)
  | .token .space :: rest => readCombinator true rest
  | .token (.delim '>') :: rest => some (.child, rest)
  | .token (.delim '+') :: rest => some (.next, rest)
  | .token (.delim '~') :: rest => some (.later, rest)
  | [] => none
  | rest => if spaces then some (.descendant, rest) else none

-- The rest of a chain of at most `fuel` more elements.
def readChain (inner : Inner) (hasAllowed : Bool) :
    (fuel : Nat) → Complex → List Value → Except (List Value) (Complex × List Value)
  | 0, left, vs => .ok (left, vs)
  | fuel + 1, left, vs =>
    match readCombinator false vs with
    | none => .ok (left, vs)
    | some (combinator, rest) => do
      let (parts, rest) ← readCompound inner hasAllowed rest
      readChain inner hasAllowed fuel (.joined left combinator parts) rest

-- A whole selector, with nothing behind it.
def readComplex (inner : Inner) (mode : Mode) (vs : List Value) : Except (List Value) Complex := do
  let vs := skipSpaces vs
  let (first, rest) ←
    if mode.relative then do
      let (combinator, rest) := (readCombinator false vs).getD (.descendant, vs)
      let (parts, rest) ← readCompound inner mode.hasAllowed rest
      Except.ok (Complex.joined (.compound [.anchor]) combinator parts, rest)
    else do
      let (parts, rest) ← readCompound inner mode.hasAllowed vs
      Except.ok (Complex.compound parts, rest)
  let (complex, rest) ← readChain inner mode.hasAllowed rest.length first rest
  if skipSpaces rest matches _ :: _ then throw (skipSpaces rest)
  return complex

def splitAtCommas : List Value → List (List Value)
  | [] => [[]]
  | v :: rest =>
    if v.isComma then [] :: splitAtCommas rest
    else match splitAtCommas rest with
      | [] => [[v]]
      | part :: more => (v :: part) :: more

-- Selectors whose pseudo-classes are nested at most `depth` deep.
def readList : (depth : Nat) → Mode → List Value → Option (List Complex)
  | 0, _, _ => none
  | depth + 1, mode, vs =>
    (splitAtCommas vs).mapM fun part =>
      match readComplex (readList depth) mode part with
      | .ok c => some c
      | .error rest =>
        if mode.forgiving && !Value.anyBroken rest then some (.compound [.never]) else none

def topMode : Mode := ⟨false, false, true⟩

-- Nesting takes brackets, so the length of the text bounds its depth.
def read? (cs : List Char) : Option Selector :=
  (readList (cs.length + 1) topMode (Value.ofTokens (Token.all cs))).map Selector.mk

end Stepwise.Selector
