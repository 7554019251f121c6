namespace Stepwise

-- A finite double. The non-negative finite doubles are numbered in ascending order from zero, so
-- `magnitude` is a position in that order: the value of position `m` is
-- `significand m * 2 ^ (shift m) / 2 ^ 1074`.
structure Binary64 where
  negative : Bool
  magnitude : Nat
  finite : magnitude < 0x7FF0000000000000
deriving DecidableEq

namespace Binary64

instance : Inhabited Binary64 := ⟨⟨false, 0, by decide⟩⟩

def zero : Binary64 := default

def significand (magnitude : Nat) : Nat :=
  if magnitude < 0x10000000000000 then magnitude else 0x10000000000000 + magnitude % 0x10000000000000

def shift (magnitude : Nat) : Nat := magnitude / 0x10000000000000 - 1

-- The absolute value, in units of `2 ^ -1074`.
def units (x : Binary64) : Nat := significand x.magnitude * Nat.pow 2 (shift x.magnitude)

def signedUnits (x : Binary64) : Int := if x.negative then -(x.units : Int) else x.units

-- The position among all doubles, with both zeros at 0. Comparing positions compares values.
def rank (x : Binary64) : Int := if x.negative then -(x.magnitude : Int) else x.magnitude

def compare (x y : Binary64) : Ordering := Ord.compare x.rank y.rank

def numEq (x y : Binary64) : Bool := x.rank == y.rank

-- A quotient rounded to the nearest integer, a half to the even neighbour.
def roundHalfEven (num den : Nat) : Nat :=
  let q := num / den
  let r := num % den
  if 2 * r < den then q else if den < 2 * r then q + 1 else q + q % 2

-- The position of the double nearest to `num / den`; at or above `0x7FF0000000000000` there is none.
def nearest (num den : Nat) : Nat :=
  let scaled := num * Nat.pow 2 1074
  let shift := (scaled / den).log2 - 52
  shift * 0x10000000000000 + roundHalfEven scaled (den * Nat.pow 2 shift)

-- The double nearest to `num / den` with the given sign, unless it overflows.
def ofRatio? (negative : Bool) (num den : Nat) : Option Binary64 :=
  let m := nearest num den
  if h : m < 0x7FF0000000000000 then some ⟨negative, m, h⟩ else none

def largest : Binary64 := ⟨false, 0x7FEFFFFFFFFFFFFF, by decide⟩

-- The double nearest to an integer; integers beyond the range go to the largest double.
def ofInt (z : Int) : Binary64 :=
  (ofRatio? (z < 0) z.natAbs 1).getD { largest with negative := z < 0 }

-- The nearest double to `coefficient * 10 ^ exponent`.
def ofDecimal? (negative : Bool) (coefficient : Nat) (exponent : Int) : Option Binary64 :=
  if coefficient = 0 then some { zero with negative := negative }
  else if 0 ≤ exponent then
    -- An exponent this large overflows whatever the coefficient is.
    if 400 < exponent then none else ofRatio? negative (coefficient * Nat.pow 10 exponent.toNat) 1
  else ofRatio? negative coefficient (Nat.pow 10 exponent.natAbs)

def mul? (x y : Binary64) : Option Binary64 :=
  ofRatio? (x.negative != y.negative) (x.units * y.units) (Nat.pow 2 2148)

-- The quotient, for a divisor other than zero.
def div? (x y : Binary64) : Option Binary64 :=
  ofRatio? (x.negative != y.negative) x.units y.units

-- The difference; equal operands give a positive zero, except that `-0 - 0` is `-0`.
def sub? (x y : Binary64) : Option Binary64 :=
  let d := x.signedUnits - y.signedUnits
  if d = 0 then some { zero with negative := x.negative && !y.negative && x.magnitude == 0 }
  else ofRatio? (d < 0) d.natAbs (Nat.pow 2 1074)

end Binary64

end Stepwise
