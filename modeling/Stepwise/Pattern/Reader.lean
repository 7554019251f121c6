import Stepwise.Pattern.Basic
import Stepwise.Pattern.CharSet
import Stepwise.Text.Property.Folding

namespace Stepwise.Pattern

open Text (Ranges)

-- `verbose` lets white space and comments stand between the parts of a pattern.
structure Flags where
  ignoreCase : Bool := false
  multiLine : Bool := false
  dotAll : Bool := false
  lazyFirst : Bool := false
  wide : Bool := true
  returns : Bool := false
  verbose : Bool := false

namespace Flags

-- Without wide characters a set is one of bytes.
def top (f : Flags) : Nat := if f.wide then CharSet.topChar else CharSet.topByte

-- A set of bytes may not hold a part of a longer character.
def isSound (f : Flags) (set : Ranges) : Bool := f.wide || set.all fun r => r.2 < 0x80

def fold (f : Flags) (set : Ranges) : Ranges :=
  if !f.ignoreCase then set
  else if f.wide then Text.Folding.close set else Text.Folding.closeAscii set

def negate (f : Flags) (negated : Bool) (set : Ranges) : Ranges :=
  if negated then Ranges.complement f.top set else set

end Flags

-- What a backslash and what follows it stand for.
inductive Escape
  | char (c : Char) (isByte : Bool)
  | set (set : Ranges)
  | look (l : Look)

def dropComment (cs : List Char) : List Char := cs.dropWhile (· ≠ '\n')

-- What stands behind white space and comments, of at most `fuel` pieces.
def skip (f : Flags) (cs : List Char) : List Char :=
  if f.verbose then go cs.length cs else cs
where
  go : Nat → List Char → List Char
    | 0, cs => cs
    | fuel + 1, cs =>
      match cs with
      | '#' :: rest => go fuel (dropComment rest)
      | c :: rest => if Text.isBlank c then go fuel rest else cs
      | [] => []

def isHexDigit (c : Char) : Bool :=
  c.isDigit || ('a' ≤ c && c ≤ 'f') || ('A' ≤ c && c ≤ 'F')

def hexNumber (cs : List Char) : Nat :=
  cs.foldl (fun n c => n * 16 + Ranges.hexValue c.toLower) 0

def charOf? (digits : List Char) : Option Char :=
  let n := hexNumber digits
  if digits.all isHexDigit && n.isValidChar then some (Char.ofNat n) else none

-- Exactly `count` digits, between which a verbose pattern may have space.
def readDigits? (f : Flags) : (count : Nat) → List Char → Option (List Char × List Char)
  | 0, cs => some ([], cs)
  | count + 1, cs =>
    match skip f cs with
    | [] => none
    | c :: rest => (readDigits? f count rest).map fun (ds, more) => (c :: ds, more)

def withoutSpace (f : Flags) (cs : List Char) : List Char :=
  if f.verbose then cs.filter fun c => !Text.isBlank c else cs

-- A character by its number: in braces, or with as many digits as the letter before it says.
def readHex? (f : Flags) (count : Nat) (cs : List Char) : Option (Escape × List Char) :=
  match skip f cs with
  | '\x7b' :: rest => do
    let digits := withoutSpace f (rest.takeWhile (· ≠ '\x7d'))
    let _ :: more := rest.dropWhile (· ≠ '\x7d') | none
    if digits.isEmpty then none
    let c ← charOf? digits
    return (.char c false, more)
  | cs => do
    let (digits, more) ← readDigits? f count cs
    let c ← charOf? digits
    return (.char c (count = 2), more)

def splitOn? (separator : List Char) : List Char → Option (List Char × List Char)
  | [] => none
  | c :: rest =>
    if separator.isPrefixOf (c :: rest) then some ([], (c :: rest).drop separator.length)
    else (splitOn? separator rest).map fun (a, b) => (c :: a, b)

-- The property that stands between braces, and whether it is denied there.
def property? (text : List Char) : Option (Bool × Ranges) :=
  match splitOn? ['!', '='] text with
  | some (name, value) => (CharSet.valued? name value).map (true, ·)
  | none =>
    match (splitOn? [':'] text).or (splitOn? ['='] text) with
    | some (name, value) => (CharSet.valued? name value).map (false, ·)
    | none => (CharSet.named? text).map (false, ·)

def readProperty? (f : Flags) (negated : Bool) (cs : List Char) : Option (Escape × List Char) := do
  if !f.wide then none
  let (denied, set, rest) ←
    match skip f cs with
    | '\x7b' :: rest =>
      match rest.dropWhile (· ≠ '\x7d') with
      | _ :: more => do
        let (denied, set) ← property? (withoutSpace f (rest.takeWhile (· ≠ '\x7d')))
        some (denied, set, more)
      | [] => none
    | c :: rest => (CharSet.named? [c]).map fun set => (false, set, rest)
    | [] => none
  return (.set (f.negate (negated != denied) (f.fold set)), rest)

def isMeta (c : Char) : Bool := "\\.+*?()|[]\x7b\x7d^$#&-~".toList.contains c

def isWordMark (c : Char) : Bool := c.isAlpha || c == '-'

-- The kind of boundary between braces. Other braces may be a repetition; then nothing is read.
def readBoundary? (f : Flags) (cs : List Char) : Option (Look × List Char) :=
  match cs with
  | '\x7b' :: rest =>
    match skip f rest with
    | [] => none
    | c :: _ =>
      if !isWordMark c then some (.boundary f.wide, cs)
      else
        let name := withoutSpace f (rest.takeWhile (· ≠ '\x7d'))
        match rest.dropWhile (· ≠ '\x7d'), String.ofList name with
        | _ :: more, "start" => some (.wordStart f.wide, more)
        | _ :: more, "end" => some (.wordEnd f.wide, more)
        | _ :: more, "start-half" => some (.wordStartHalf f.wide, more)
        | _ :: more, "end-half" => some (.wordEndHalf f.wide, more)
        | _, _ => none
  | _ => some (.boundary f.wide, cs)

def readEscape? (f : Flags) (cs : List Char) : Option (Escape × List Char) :=
  match cs with
  | [] => none
  | c :: rest =>
    let char (d : Char) : Option (Escape × List Char) := some (.char d false, rest)
    let look (l : Look) : Option (Escape × List Char) := some (.look l, rest)
    match c with
    | 'x' => readHex? f 2 rest
    | 'u' => readHex? f 4 rest
    | 'U' => readHex? f 8 rest
    | 'p' => readProperty? f false rest
    | 'P' => readProperty? f true rest
    | 'd' | 's' | 'w' => (CharSet.short? f.wide c).map fun set => (.set set, rest)
    | 'D' | 'S' | 'W' =>
      (CharSet.short? f.wide c.toLower).map fun set => (.set (f.negate true set), rest)
    | 'a' => char '\x07'
    | 'f' => char '\x0c'
    | 't' => char '\t'
    | 'n' => char '\n'
    | 'r' => char '\r'
    | 'v' => char '\x0b'
    | 'A' => look .start
    | 'z' => look .finish
    | 'b' => (readBoundary? f rest).map fun (l, more) => (.look l, more)
    | 'B' => look (.noBoundary f.wide)
    | '<' => look (.wordStart f.wide)
    | '>' => look (.wordEnd f.wide)
    | _ => if isMeta c || (c.toNat < 0x80 && !c.isAlphanum) then char c else none

-- The set of one character that is written out or by its number.
def literal? (f : Flags) (c : Char) (isByte : Bool) : Option Ranges :=
  if !f.wide && isByte && c.toNat ≥ 0x80 then none else some (f.fold [(c.toNat, c.toNat)])

-- How two sets in brackets are joined.
inductive SetOp
  | inter | diff | exclusive

def SetOp.apply (f : Flags) (op : SetOp) (a b : Ranges) : Ranges :=
  match op with
  | inter => Ranges.inter f.top a b
  | diff => Ranges.diff f.top a b
  | exclusive => Ranges.union (Ranges.diff f.top a b) (Ranges.diff f.top b a)

-- A named set such as `[:alpha:]`, behind its first bracket.
def readNamedSet? (f : Flags) (cs : List Char) : Option (Ranges × List Char) :=
  match cs with
  | ':' :: rest =>
    let (negated, rest) := match rest with
      | '^' :: more => (true, more)
      | _ => (false, rest)
    match rest.dropWhile (· ≠ ':') with
    | ':' :: ']' :: more =>
      (CharSet.ascii? (String.ofList (rest.takeWhile (· ≠ ':')))).map fun set =>
        (f.negate negated set, more)
    | _ => none
  | _ => none

-- One member of a set in brackets.
def readMember? (f : Flags) (cs : List Char) : Option (Escape × List Char) :=
  match cs with
  | [] => none
  | '\\' :: rest => readEscape? f rest
  | c :: rest => some (.char c false, rest)

-- The number of a single character in a set.
def memberCode? (f : Flags) : Escape → Option Nat
  | .char c isByte =>
    if !f.wide && c.toNat ≥ 0x80 && !isByte then none else some c.toNat
  | _ => none

def memberSet? (f : Flags) (e : Escape) : Option Ranges :=
  match e with
  | .set set => some set
  | _ => (memberCode? f e).map fun n => [(n, n)]

-- A member or a range of them.
def readRange? (f : Flags) (cs : List Char) : Option (Ranges × List Char) := do
  let (first, rest) ← readMember? f cs
  match skip f rest with
  | [] => none
  | '-' :: more =>
    match skip f more with
    | [] => none
    | ']' :: _ | '-' :: _ => return (← memberSet? f first, skip f rest)
    | more => do
      let (last, rest) ← readMember? f more
      let low ← memberCode? f first
      let high ← memberCode? f last
      if low ≤ high then return ([(low, high)], rest) else none
  | rest => return (← memberSet? f first, rest)

-- A set in brackets that is being read: what joins it with the set to its left, and its members
-- so far.
structure SetFrame where
  negated : Bool
  left : Option (SetOp × Ranges)
  members : Ranges

def SetFrame.value (f : Flags) (s : SetFrame) : Ranges :=
  match s.left with
  | none => s.members
  | some (op, left) => op.apply f (f.fold left) (f.fold s.members)

def SetFrame.join (f : Flags) (s : SetFrame) (op : SetOp) : SetFrame :=
  { s with left := some (op, s.value f), members := [] }

def SetFrame.add (s : SetFrame) (set : Ranges) : SetFrame :=
  { s with members := Ranges.union s.members set }

def SetFrame.close (f : Flags) (s : SetFrame) : Ranges := f.negate s.negated (f.fold (s.value f))

-- Hyphens right behind the opening bracket are members.
def readHyphens (f : Flags) : (fuel : Nat) → (found : Bool) → List Char → Bool × List Char
  | fuel + 1, _, '-' :: rest => readHyphens f fuel true (skip f rest)
  | _, found, cs => (found, cs)

-- What stands behind an opening bracket: a `^`, hyphens, or else a closing bracket as a member.
def openSet (f : Flags) (cs : List Char) : SetFrame × List Char :=
  let cs := skip f cs
  let (negated, cs) := match cs with
    | '^' :: rest => (true, skip f rest)
    | _ => (false, cs)
  let (hyphens, rest) := readHyphens f cs.length false cs
  if hyphens then (⟨negated, none, [(0x2D, 0x2D)]⟩, rest)
  else match rest with
    | ']' :: more => (⟨negated, none, [(0x5D, 0x5D)]⟩, skip f more)
    | _ => (⟨negated, none, []⟩, rest)

-- The rest of a set in brackets, in which sets may nest.
def readSet? (f : Flags) :
    (fuel : Nat) → SetFrame → (outer : List SetFrame) → List Char → Option (Ranges × List Char)
  | 0, _, _, _ => none
  | fuel + 1, s, outer, cs =>
    match skip f cs with
    | [] => none
    | '[' :: rest =>
      match readNamedSet? f rest with
      | some (set, more) => readSet? f fuel (s.add set) outer more
      | none =>
        let (inner, more) := openSet f rest
        readSet? f fuel inner (s :: outer) more
    | ']' :: rest =>
      match outer with
      | [] => some (s.close f, rest)
      | o :: outer => readSet? f fuel (o.add (s.close f)) outer rest
    | '&' :: '&' :: rest => readSet? f fuel (s.join f .inter) outer rest
    | '-' :: '-' :: rest => readSet? f fuel (s.join f .diff) outer rest
    | '~' :: '~' :: rest => readSet? f fuel (s.join f .exclusive) outer rest
    | cs =>
      match readRange? f cs with
      | some (set, more) => readSet? f fuel (s.add set) outer more
      | none => none

-- A part of a pattern and how deep it is nested. A change of flags is a part that cannot be
-- repeated.
structure Item where
  pattern : Pattern
  depth : Nat := 0
  isFlags : Bool := false

-- What is read of a group: the parts of its last alternative, and the alternatives before that,
-- both backwards.
structure Level where
  items : List Item := []
  choices : List Item := []

-- The flags in force, the group that is being read, the groups around it with the flags that hold
-- behind them, and the names of groups.
structure State where
  flags : Flags := {}
  level : Level := {}
  outer : List (Flags × Level) := []
  names : List (List Char) := []

def maxDepth (items : List Item) : Nat := items.foldl (fun d i => max d i.depth) 0

def Level.sequence (l : Level) : Item :=
  match l.items with
  | [] => { pattern := .empty }
  | [item] => item
  | items =>
    { pattern := items.foldl (fun p i => .seq i.pattern p) .empty, depth := maxDepth items + 1 }

def Level.choice (l : Level) : Item :=
  match l.choices with
  | [] => l.sequence
  | choices =>
    let last := l.sequence
    { pattern := choices.foldl (fun p i => .alt i.pattern p) last.pattern
      depth := maxDepth (last :: choices) + 1 }

def State.add (s : State) (item : Item) : State :=
  { s with level := { s.level with items := item :: s.level.items } }

def State.openGroup (s : State) (flags : Flags) : State :=
  { s with flags, level := {}, outer := (s.flags, s.level) :: s.outer }

def State.closeGroup? (s : State) : Option State :=
  match s.outer with
  | [] => none
  | (flags, level) :: outer =>
    let inner := s.level.choice
    some ({ s with flags, level, outer }.add { pattern := inner.pattern, depth := inner.depth + 1 })

def State.addChoice (s : State) : State :=
  { s with level := { items := [], choices := s.level.sequence :: s.level.choices } }

-- Repeat the part that is read last.
def State.repeatLast? (s : State) (least : Nat) (most : Option Nat) (greedy : Bool) : Option State :=
  match s.level.items with
  | [] => none
  | item :: items =>
    if item.isFlags then none
    else
      let item : Item :=
        { pattern := .times item.pattern least most (greedy != s.flags.lazyFirst)
          depth := item.depth + 1 }
      some { s with level := { s.level with items := item :: items } }

-- Whether a repetition prefers to go on, and what follows.
def readGreed (cs : List Char) : Bool × List Char :=
  match cs with
  | '?' :: rest => (false, rest)
  | _ => (true, cs)

def readCount (cs : List Char) : Option Nat × List Char :=
  let cs := cs.dropWhile Text.isBlank
  let digits := cs.takeWhile Char.isDigit
  let n := digits.foldl (fun n d => n * 10 + (d.toNat - '0'.toNat)) 0
  (if digits.isEmpty then none else some n, (cs.dropWhile Char.isDigit).dropWhile Text.isBlank)

def maxCount : Nat := 0x100000000 - 1

-- The bounds between braces, behind the first one.
def readBounds? (f : Flags) (cs : List Char) : Option (Nat × Option Nat × List Char) := do
  let (least, rest) := readCount (skip f cs)
  let least ← least
  let (most, rest) ←
    match rest with
    | ',' :: more =>
      match skip f more with
      | '\x7d' :: _ => some (none, skip f more)
      | more =>
        match readCount more with
        | (some most, rest) => some (some most, rest)
        | (none, _) => none
    | _ => some (some least, rest)
  let '\x7d' :: rest := rest | none
  if least > maxCount || most.any fun m => m > maxCount || m < least then none
  return (least, most, rest)

def isNameStart (c : Char) : Bool := c == '_' || (CharSet.unionAll [CharSet.letters, Text.Category.nl,
  CharSet.enclosedLetters]).has c

def isNamePart (c : Char) : Bool :=
  isNameStart c || c == '.' || c == '[' || c == ']' || Text.Category.nd.has c ||
    Text.Category.no.has c

-- A name for a group, up to its closing bracket. No two groups have one name.
def readGroupName? (s : State) (cs : List Char) : Option (State × List Char) :=
  let name := cs.takeWhile (· ≠ '>')
  match name, cs.dropWhile (· ≠ '>') with
  | c :: more, _ :: rest =>
    if isNameStart c && more.all isNamePart && !s.names.contains name then
      some ({ s with names := name :: s.names }, rest)
    else none
  | _, _ => none

def Flags.set? (f : Flags) (on : Bool) : Char → Option Flags
  | 'i' => some { f with ignoreCase := on }
  | 'm' => some { f with multiLine := on }
  | 's' => some { f with dotAll := on }
  | 'U' => some { f with lazyFirst := on }
  | 'u' => some { f with wide := on }
  | 'R' => some { f with returns := on }
  | 'x' => some { f with verbose := on }
  | _ => none

-- The letters up to a colon or a closing bracket, each at most once; those behind a hyphen put
-- flags out of force.
def readFlags? (f : Flags) (seen : List Char) : List Char → Option (Flags × List Char × List Char)
  | [] => none
  | c :: rest =>
    if c = ':' ∨ c = ')' then if seen.head? = some '-' then none else some (f, seen, c :: rest)
    else if seen.contains c then none
    else if c = '-' then readFlags? f (c :: seen) rest
    else match f.set? (!seen.contains '-') c with
      | some f => readFlags? f (c :: seen) rest
      | none => none

-- What stands behind an opening bracket.
def readGroup? (s : State) (cs : List Char) : Option (State × List Char) :=
  match skip s.flags cs with
  | '?' :: 'P' :: '<' :: rest => named rest
  | '?' :: '<' :: rest =>
    match rest with
    | '=' :: _ | '!' :: _ => none
    | _ => named rest
  | '?' :: rest => do
    let (flags, seen, rest) ← readFlags? s.flags [] rest
    match rest with
    | ':' :: rest => return (s.openGroup flags, rest)
    | _ :: rest =>
      if seen.isEmpty then none
      return ({ s with flags }.add { pattern := .empty, isFlags := true }, rest)
    | [] => none
  | rest => some (s.openGroup s.flags, rest)
where
  named (rest : List Char) : Option (State × List Char) := do
    let (s, rest) ← readGroupName? s rest
    return (s.openGroup s.flags, rest)

def dot? (f : Flags) : Option Ranges :=
  let excluded : Ranges :=
    if f.dotAll then [] else if f.returns then [(0x0A, 0x0A), (0x0D, 0x0D)] else [(0x0A, 0x0A)]
  let set := Ranges.complement f.top excluded
  if f.isSound set then some set else none

def lineStart (f : Flags) : Look :=
  if !f.multiLine then .start else if f.returns then .returnStart else .lineStart

def lineEnd (f : Flags) : Look :=
  if !f.multiLine then .finish else if f.returns then .returnEnd else .lineEnd

def Escape.pattern? (f : Flags) : Escape → Option Pattern
  | .char c isByte => (literal? f c isByte).map .char
  | .set members => if f.isSound members then some (.char members) else none
  | .look l => some (.look l)

-- Read the next part of a pattern.
def step? (s : State) (c : Char) (rest : List Char) : Option (State × List Char) :=
  let put (p : Option Pattern) (rest : List Char) : Option (State × List Char) :=
    p.map fun pattern => (s.add { pattern }, rest)
  let again (least : Nat) (most : Option Nat) : Option (State × List Char) :=
    let (greedy, rest) := readGreed rest
    (s.repeatLast? least most greedy).map (·, rest)
  match c with
  | '(' => readGroup? s rest
  | ')' => s.closeGroup?.map (·, rest)
  | '|' => some (s.addChoice, rest)
  | '[' => do
    let (first, rest) := openSet s.flags rest
    let (set, rest) ← readSet? s.flags (2 * rest.length + 1) first [] rest
    if s.flags.isSound set then return (s.add { pattern := .char set, depth := 1 }, rest) else none
  | '?' => again 0 (some 1)
  | '*' => again 0 none
  | '+' => again 1 none
  | '\x7b' => do
    let (least, most, rest) ← readBounds? s.flags rest
    let (greedy, rest) := readGreed (skip s.flags rest)
    let s ← s.repeatLast? least most greedy
    return (s, rest)
  | '\\' => do
    let (e, rest) ← readEscape? s.flags rest
    put (e.pattern? s.flags) rest
  | '.' => put ((dot? s.flags).map .char) rest
  | '^' => put (some (.look (lineStart s.flags))) rest
  | '$' => put (some (.look (lineEnd s.flags))) rest
  | _ => put ((literal? s.flags c false).map .char) rest

-- How deep the parts of a pattern may be nested.
def maxNesting : Nat := 250

def readAll? : (fuel : Nat) → State → List Char → Option Item
  | 0, _, _ => none
  | fuel + 1, s, cs =>
    match skip s.flags cs with
    | [] => if s.outer.isEmpty then some s.level.choice else none
    | c :: rest =>
      match step? s c rest with
      | some (s, rest) => readAll? fuel s rest
      | none => none

-- A pattern that is well-formed and not too large.
def read? (cs : List Char) : Option Pattern :=
  match readAll? (cs.length + 1) {} cs with
  | some item =>
    if item.depth ≤ maxNesting && item.pattern.weight ≤ maxWeight then some item.pattern else none
  | none => none

end Stepwise.Pattern
