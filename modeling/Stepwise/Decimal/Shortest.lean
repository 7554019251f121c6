import Stepwise.Decimal.Binary64

namespace Stepwise.Decimal

-- A positive decimal `0.d₁d₂… * 10 ^ point`, its first and last digits not zero.
structure Digits where
  digits : List Char
  point : Int
deriving DecidableEq

def Digits.zero : Digits := ⟨['0'], 1⟩

def decimalDigits (n : Nat) : List Char := Nat.toDigits 10 n

-- `coefficient * 10 ^ exponent` without trailing zeros.
def Digits.ofCoefficient (coefficient : Nat) (exponent : Int) : Digits :=
  let all := decimalDigits coefficient
  let kept := (all.reverse.dropWhile (· == '0')).reverse
  ⟨kept, exponent + all.length⟩

-- The `k` with `10 ^ (k - 1) ≤ num / den < 10 ^ k`, for a positive quotient.
def pointOf (num den : Nat) : Int :=
  if den ≤ num then (decimalDigits (num / den)).length
  else 1 - ((decimalDigits ((den - 1) / num)).length : Int)

-- The reals that round to a double, as `low / (4 * Nat.pow 2 1074)` to `high / (4 * Nat.pow 2 1074)`; the ends
-- belong to it when the significand is even.
structure Interval where
  low : Nat
  value : Nat
  high : Nat
  closed : Bool

def intervalOf (magnitude : Nat) : Interval :=
  let significand := Binary64.significand magnitude
  let shift := Binary64.shift magnitude
  let unit := Nat.pow 2 shift
  let value := 4 * significand * unit
  let below := if significand = 0x10000000000000 ∧ 0 < shift then unit else 2 * unit
  ⟨value - below, value, value + 2 * unit, significand % 2 == 0⟩

def unitDenominator : Nat := 4 * Nat.pow 2 1074

-- Compare `c * 10 ^ e` with `n / unitDenominator`, as a pair of naturals in the same order.
def scaleAgainst (c : Nat) (e : Int) (n : Nat) : Nat × Nat :=
  if 0 ≤ e then (c * Nat.pow 10 e.toNat * unitDenominator, n)
  else (c * unitDenominator, n * Nat.pow 10 e.natAbs)

def Interval.holds (i : Interval) (c : Nat) (e : Int) : Bool :=
  let (a, low) := scaleAgainst c e i.low
  let (b, high) := scaleAgainst c e i.high
  if i.closed then low ≤ a && b ≤ high else low < a && b < high

-- The nearer of the value's two neighbours on the grid of multiples of `10 ^ e`, among those in the
-- interval; a tie goes to the even one.
def gridHit? (i : Interval) (e : Int) : Option Nat :=
  let (one, v) := scaleAgainst 1 e i.value
  let c := v / one
  let r := v % one
  match i.holds c e && c != 0, i.holds (c + 1) e with
  | true, true => some (if 2 * r < one then c else if one < 2 * r then c + 1 else c + c % 2)
  | true, false => some c
  | false, true => some (c + 1)
  | false, false => none

-- Try `count` more grids, the coarsest first; the finest grid always has a hit.
def search (i : Interval) (point : Int) : (digitCount count : Nat) → Digits
  | digitCount, 0 => Digits.ofCoefficient ((gridHit? i (point - digitCount)).getD 0) (point - digitCount)
  | digitCount, count + 1 =>
    match gridHit? i (point - digitCount) with
    | some c => Digits.ofCoefficient c (point - digitCount)
    | none => search i point (digitCount + 1) count

-- The shortest decimal that reads back as the double, and of those the nearest to it.
def shortest (magnitude : Nat) : Digits :=
  if magnitude = 0 then Digits.zero
  else
    let i := intervalOf magnitude
    search i (pointOf i.value unitDenominator) 1 16

end Stepwise.Decimal
