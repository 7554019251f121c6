import Stepwise.Decimal.Shortest

namespace Stepwise.Decimal

-- All digits written out, with at least one on each side of the point.
def Digits.positional (d : Digits) : List Char :=
  if d.point ≤ 0 then '0' :: '.' :: List.replicate d.point.natAbs '0' ++ d.digits
  else
    let whole := d.digits.take d.point.toNat
    let part := d.digits.drop d.point.toNat
    whole ++ List.replicate (d.point.toNat - d.digits.length) '0' ++
      '.' :: (if part.isEmpty then ['0'] else part)

-- One digit before the point and a signed exponent.
def Digits.scientific (d : Digits) : List Char :=
  let exponent := d.point - 1
  let tail := (if exponent < 0 then '-' else '+') :: decimalDigits exponent.natAbs
  match d.digits with
  | [] => []
  | [c] => c :: 'e' :: tail
  | c :: rest => c :: '.' :: rest ++ 'e' :: tail

-- Which sizes are written without an exponent: the place of the leading digit, both ends included.
structure Layout where
  lowest : Int
  highest : Int

def Layout.write (layout : Layout) (d : Digits) : List Char :=
  if layout.lowest ≤ d.point - 1 ∧ d.point - 1 ≤ layout.highest then d.positional else d.scientific

def signed (negative : Bool) (text : List Char) : List Char := if negative then '-' :: text else text

def write (layout : Layout) (x : Binary64) : String :=
  String.ofList (signed x.negative (layout.write (shortest x.magnitude)))

def writePositional (x : Binary64) : String :=
  String.ofList (signed x.negative (shortest x.magnitude).positional)

-- The value of a run of digits.
def digitsValue (cs : List Char) : Nat := cs.foldl (fun n c => n * 10 + (c.toNat - '0'.toNat)) 0

-- An optional sign and its absence.
def splitSign : List Char → Bool × List Char
  | '-' :: rest => (true, rest)
  | '+' :: rest => (false, rest)
  | cs => (false, cs)

-- An exponent mark with digits, to the end of the text.
def exponentOf? : List Char → Option Int
  | [] => some 0
  | c :: rest =>
    if c = 'e' ∨ c = 'E' then
      let (negative, digits) := splitSign rest
      if digits.isEmpty || !digits.all Char.isDigit then none
      else
        let size := digitsValue digits
        some (if negative then -size else size)
    else none

-- A decimal number as it is written: `coefficient * 10 ^ scale` and a sign.
structure Numeral where
  negative : Bool
  coefficient : Nat
  scale : Int

-- The digits after a point, if there is one, and what is left.
def splitPoint : List Char → List Char × List Char
  | '.' :: rest => (rest.takeWhile Char.isDigit, rest.dropWhile Char.isDigit)
  | rest => ([], rest)

-- A whole text as a decimal number: a sign, digits with at most one point and at least one digit,
-- and an exponent.
def numeral? (cs : List Char) : Option Numeral :=
  let (negative, body) := splitSign cs
  let whole := body.takeWhile Char.isDigit
  let (part, rest) := splitPoint (body.dropWhile Char.isDigit)
  if whole.isEmpty && part.isEmpty then none
  else (exponentOf? rest).map fun exponent =>
    ⟨negative, digitsValue (whole ++ part), exponent - part.length⟩

-- The nearest double; a number beyond the range of doubles has none.
def Numeral.round? (n : Numeral) : Option Binary64 :=
  -- Far outside the range the size alone decides, so no power of ten is larger than the text.
  let size := n.scale + (decimalDigits n.coefficient).length
  if n.coefficient = 0 ∨ size < -400 then some { Binary64.zero with negative := n.negative }
  else if 400 < size then none
  else Binary64.ofDecimal? n.negative n.coefficient n.scale

-- Read a whole text as a decimal number, correctly rounded.
def read? (cs : List Char) : Option Binary64 := (numeral? cs).bind Numeral.round?

end Stepwise.Decimal
