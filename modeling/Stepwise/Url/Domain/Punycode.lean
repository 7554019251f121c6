namespace Stepwise.Url.Domain

-- Decoding of labels written in Punycode.

def digitOf? (c : Char) : Option Nat :=
  if 'a' ≤ c ∧ c ≤ 'z' then some (c.toNat - 'a'.toNat)
  else if 'A' ≤ c ∧ c ≤ 'Z' then some (c.toNat - 'A'.toNat)
  else if c.isDigit then some (c.toNat - '0'.toNat + 26)
  else none

-- Divide `delta` down to the size at which a first digit can hold it, counting the divisions.
def settle : (fuel delta k : Nat) → Nat
  | 0, delta, k => k + 36 * delta / (delta + 38)
  | fuel + 1, delta, k =>
    if 455 < delta then settle fuel (delta / 35) (k + 36) else k + 36 * delta / (delta + 38)

def adapt (delta count : Nat) (first : Bool) : Nat :=
  let delta := if first then delta / 700 else delta / 2
  settle delta.log2 (delta + delta / count) 0

-- One variable-length number: its value and what follows it.
def readDelta (bias : Nat) : (k weight value : Nat) → List Char → Option (Nat × List Char)
  | _, _, _, [] => none
  | k, weight, value, c :: rest => do
    let d ← digitOf? c
    let value := value + d * weight
    let t := if k ≤ bias then 1 else min (k - bias) 26
    -- Values beyond 32 bits belong to no character.
    if 0x100000000 ≤ value then none
    else if d < t then some (value, rest)
    else readDelta bias (k + 36) (weight * (36 - t)) value rest

-- Each number read places one more character in the text so far.
def extend : (fuel code place bias : Nat) → (first : Bool) → (sofar : List Char) → List Char →
    Option (List Char)
  | _, _, _, _, _, sofar, [] => some sofar
  | 0, _, _, _, _, _, _ => none
  | fuel + 1, code, place, bias, first, sofar, cs => do
    let (delta, rest) ← readDelta bias 36 1 0 cs
    let count := sofar.length + 1
    let code := code + (place + delta) / count
    let place := (place + delta) % count
    if 0x10FFFF < code ∨ (0xD800 ≤ code ∧ code ≤ 0xDFFF) then none
    else
      extend fuel code (place + 1) (adapt delta count first) false
        (sofar.take place ++ Char.ofNat code :: sofar.drop place) rest

-- The characters before the last hyphen stand for themselves; each number after it places one more.
def decodeLabel (cs : List Char) : Option (List Char) :=
  let tail := (cs.reverse.takeWhile (· ≠ '-')).reverse
  let basic := if tail.length = cs.length then [] else cs.take (cs.length - tail.length - 1)
  extend tail.length 128 0 72 true basic tail

end Stepwise.Url.Domain
