import Stepwise.Toml.Scalar
import Stepwise.Toml.Table

namespace Stepwise.Toml

def isBareKeyChar (c : Char) : Bool := c.isAlphanum || c == '_' || c == '-'

def readName : List Char → Option (String × List Char)
  | '"' :: rest => (readBasic rest).map fun (s, rest) => (String.ofList s, rest)
  | '\x27' :: rest => (readLiteral rest).map fun (s, rest) => (String.ofList s, rest)
  | cs =>
    let name := cs.takeWhile isBareKeyChar
    if name.isEmpty then none else some (String.ofList name, cs.dropWhile isBareKeyChar)

-- Names with dots between them. Blanks may stand around each.
def readNames : (fuel : Nat) → List Char → Option (List String × List Char)
  | 0, _ => none
  | fuel + 1, cs => do
    let (name, rest) ← readName (skipBlanks cs)
    match skipBlanks rest with
    | '.' :: more => (readNames fuel more).map fun (names, rest) => (name :: names, rest)
    | rest => some ([name], rest)

-- Neither keys nor brackets go deeper than this.
def depthLimit : Nat := 79

def readKey (cs : List Char) : Option (Key × List Char) := do
  let (names, rest) ← readNames depthLimit cs
  let last ← names.getLast?
  some (⟨names.dropLast, last⟩, rest)

-- Skip blanks, line ends and comments; `comment` says that one has begun.
def skipFiller (comment : Bool) : List Char → Option (List Char)
  | [] => some []
  | '\n' :: rest => skipFiller false rest
  | '\r' :: '\n' :: rest => skipFiller false rest
  | c :: rest =>
    if comment then if isPlain c then skipFiller true rest else none
    else if isBlank c then skipFiller false rest
    else if c = '#' then skipFiller true rest
    else if c = '\r' then none
    else some (c :: rest)

-- The items of an array after its bracket. The last may have a comma too.
def readItems (value : List Char → Option (Node × List Char)) :
    (fuel : Nat) → List Char → Option (List Node × List Char)
  | 0, _ => none
  | fuel + 1, cs => do
    match ← skipFiller false cs with
    | ']' :: rest => some ([], rest)
    | cs => do
      let (v, rest) ← value cs
      match ← skipFiller false rest with
      | ',' :: rest => (readItems value fuel rest).map fun (vs, rest) => (v :: vs, rest)
      | ']' :: rest => some ([v], rest)
      | _ => none

-- A key, an equals sign and a value, with the blanks around each.
def readPair (value : List Char → Option (Node × List Char)) (cs : List Char) :
    Option ((Key × Node) × List Char) := do
  let (key, rest) ← readKey cs
  let (v, rest) ← value (skipBlanks (← expect? '=' rest))
  some ((key, v), skipBlanks rest)

-- The pairs of a table in braces, of which there is at least one.
def readPairs (value : List Char → Option (Node × List Char)) :
    (fuel : Nat) → List Char → Option (List (Key × Node) × List Char)
  | 0, _ => none
  | fuel + 1, cs => do
    let (pair, rest) ← readPair value cs
    match rest with
    | ',' :: rest => (readPairs value fuel rest).map fun (pairs, rest) => (pair :: pairs, rest)
    | '\x7d' :: rest => some ([pair], rest)
    | _ => none

-- One value. `depth` counts the brackets that may still be opened.
def readValue : (depth : Nat) → List Char → Option (Node × List Char)
  | 0, cs => readFlat cs
  | depth + 1, cs =>
    match cs with
    | '[' :: rest =>
      (readItems (readValue depth) (rest.length + 1) rest).map fun (vs, rest) => (.array vs, rest)
    | '\x7b' :: rest =>
      match skipBlanks rest with
      | '\x7d' :: rest => some (.table .closed [], rest)
      | rest => do
        let (pairs, rest) ← readPairs (readValue depth) (rest.length + 1) rest
        (ofPairs? pairs).map fun ms => (.table .closed ms, rest)
    | cs => readFlat cs
where
  readFlat (cs : List Char) : Option (Node × List Char) :=
    match cs with
    | '"' :: _ | '\x27' :: _ => (readText cs).map fun (s, rest) => (.text (String.ofList s), rest)
    | cs => readWord cs

def readStatement : List Char → Option (Statement × List Char)
  | '[' :: '[' :: cs => do
    let (key, rest) ← readKey cs
    let rest ← expect? ']' (← expect? ']' rest)
    some (.seriesHeading key, rest)
  | '[' :: cs => do
    let (key, rest) ← readKey cs
    some (.heading key, ← expect? ']' rest)
  | cs => do
    let ((key, v), rest) ← readPair (readValue depthLimit) cs
    some (.entry key v, rest)

-- After a statement the line ends, but for a comment.
def closesLine (cs : List Char) : Bool :=
  match skipBlanks cs with
  | [] => true
  | '\n' :: _ => true
  | '#' :: _ => true
  | '\r' :: '\n' :: _ => true
  | _ => false

def readStatements : (fuel : Nat) → List Char → Option (List Statement)
  | 0, _ => none
  | fuel + 1, cs => do
    match ← skipFiller false cs with
    | [] => some []
    | cs => do
      let (s, rest) ← readStatement cs
      if closesLine rest then (readStatements fuel rest).map (s :: ·) else none

-- A mark of the byte order may stand in front.
def withoutMark : List Char → List Char
  | '\ufeff' :: rest => rest
  | cs => cs

-- The tree of a whole document.
def read? (cs : List Char) : Option Members := do
  let cs := withoutMark cs
  ofStatements? (← readStatements (cs.length + 1) cs)

end Stepwise.Toml
