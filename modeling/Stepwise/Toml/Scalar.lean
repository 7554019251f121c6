import Stepwise.Decimal.Text
import Stepwise.Toml.Basic
import Stepwise.Toml.Text.Reader

namespace Stepwise.Toml

-- Digits of a base without the underscores, each of which must stand between two digits.
def ungrouped? (base : Nat) : List Char → Option (List Char)
  | [] => none
  | [c] => if isDigitIn base c then some [c] else none
  | c :: '_' :: rest =>
    if isDigitIn base c then (ungrouped? base rest).map (c :: ·) else none
  | c :: rest => if isDigitIn base c then (ungrouped? base rest).map (c :: ·) else none
where
  isDigitIn (base : Nat) (c : Char) : Bool :=
    match digitValue? c with
    | some d => d < base
    | none => false

-- Whole numbers have 64 bits with their sign.
def integerOf? (negative : Bool) (value : Nat) : Option Int :=
  if negative then if value ≤ 0x8000000000000000 then some (-value) else none
  else if value < 0x8000000000000000 then some value else none

-- Decimal digits, with no zero in front of others.
def wholePart? (cs : List Char) : Option (List Char) :=
  match ungrouped? 10 cs with
  | some ('0' :: _ :: _) => none
  | digits? => digits?

def integer? : List Char → Option Int
  | '0' :: 'x' :: cs => inBase 16 cs
  | '0' :: 'o' :: cs => inBase 8 cs
  | '0' :: 'b' :: cs => inBase 2 cs
  | cs => do
    let (negative, body) := Decimal.splitSign cs
    let digits ← wholePart? body
    integerOf? negative (← valueIn? 10 digits)
where
  inBase (base : Nat) (cs : List Char) : Option Int := do
    let digits ← ungrouped? base cs
    integerOf? false (← valueIn? base digits)

-- An exponent mark with its digits, written without underscores.
def exponentPart? : List Char → Option (List Char)
  | [] => some []
  | c :: rest =>
    if c = 'e' ∨ c = 'E' then
      let (negative, body) := Decimal.splitSign rest
      (ungrouped? 10 body).map fun digits => 'e' :: (if negative then ['-'] else []) ++ digits
    else none

-- A number with a fraction or an exponent, as digits without underscores.
def plainFloat? (body : List Char) : Option (List Char) := do
  let isFigure := fun (c : Char) => c.isDigit || c == '_'
  let whole ← wholePart? (body.takeWhile isFigure)
  match body.dropWhile isFigure with
  | [] => none
  | '.' :: more => do
    let part ← ungrouped? 10 (more.takeWhile isFigure)
    let exponent ← exponentPart? (more.dropWhile isFigure)
    some (whole ++ '.' :: part ++ exponent)
  | rest => (exponentPart? rest).map (whole ++ ·)

-- Too large a number is refused; a negative one becomes the negative infinity instead.
def isFloat (cs : List Char) : Bool :=
  let (negative, body) := Decimal.splitSign cs
  body == ['i', 'n', 'f'] || body == ['n', 'a', 'n'] ||
    match plainFloat? body with
    | some digits => negative || (Decimal.read? digits).isSome
    | none => false

-- Two digits that number something between two bounds.
def pair? (low high : Nat) : List Char → Option (Nat × List Char)
  | a :: b :: rest => do
    let n ← valueIn? 10 [a, b]
    if low ≤ n ∧ n ≤ high then some (n, rest) else none
  | _ => none

def expect? (c : Char) : List Char → Option (List Char)
  | [] => none
  | d :: rest => if d = c then some rest else none

def daysIn (year month : Nat) : Nat :=
  if month = 2 then
    if year % 4 = 0 ∧ (year % 100 ≠ 0 ∨ year % 400 = 0) then 29 else 28
  else if month = 4 ∨ month = 6 ∨ month = 9 ∨ month = 11 then 30
  else 31

-- The rest after a date.
def date? : List Char → Option (List Char)
  | a :: b :: c :: d :: rest => do
    let year ← valueIn? 10 [a, b, c, d]
    let (month, rest) ← pair? 1 12 (← expect? '-' rest)
    let (_, rest) ← pair? 1 (daysIn year month) (← expect? '-' rest)
    some rest
  | _ => none

-- The rest after a time of day; a minute may have a leap second.
def time? (cs : List Char) : Option (List Char) := do
  let (_, rest) ← pair? 0 23 cs
  let (_, rest) ← pair? 0 59 (← expect? ':' rest)
  let (_, rest) ← pair? 0 60 (← expect? ':' rest)
  match rest with
  | '.' :: more =>
    if (more.takeWhile Char.isDigit).isEmpty then none else some (more.dropWhile Char.isDigit)
  | rest => some rest

-- Nothing, or a shift from universal time.
def isShift : List Char → Bool
  | [] => true
  | ['Z'] | ['z'] => true
  | c :: rest =>
    (c == '+' || c == '-') &&
      match pair? 0 23 rest with
      | some (_, ':' :: more) => (pair? 0 59 more).any fun (_, rest) => rest.isEmpty
      | _ => false

def isTimed (cs : List Char) : Bool := (time? cs).any isShift

-- A date with or without a time, or a time alone.
def isMoment (cs : List Char) : Bool :=
  time? cs == some [] ||
    match date? cs with
    | some [] => true
    | some (c :: rest) => (c == 'T' || c == 't') && isTimed rest
    | none => false

-- The characters of numbers, dates and names of values.
def isWordChar (c : Char) : Bool :=
  c.isAlphanum || c == '_' || c == '+' || c == '-' || c == '.' || c == ':'

def word? (cs : List Char) : Option Node :=
  if cs = ['t', 'r', 'u', 'e'] then some (.boolean true)
  else if cs = ['f', 'a', 'l', 's', 'e'] then some (.boolean false)
  else match integer? cs with
    | some z => some (.integer z)
    | none => if isFloat cs then some .float else if isMoment cs then some .moment else none

-- A value without quotes or brackets. A date and its time may have a blank between them.
def readWord (cs : List Char) : Option (Node × List Char) :=
  let word := cs.takeWhile isWordChar
  match word? word, cs.dropWhile isWordChar with
  | some .moment, ' ' :: more =>
    if date? word == some [] && isTimed (more.takeWhile isWordChar) then
      some (.moment, more.dropWhile isWordChar)
    else some (.moment, ' ' :: more)
  | node?, rest => node?.map (·, rest)

end Stepwise.Toml
