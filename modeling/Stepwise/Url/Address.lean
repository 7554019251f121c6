import Stepwise.Text.Blank
import Stepwise.Json.Reader

namespace Stepwise.Url

-- The value of digits in a base, `none` when one of them is no such digit.
def digitsIn? (base : Nat) (cs : List Char) : Option Nat :=
  cs.foldlM (fun n c => do
    let d ← Json.hexValue? c
    if d < base then some (n * base + d) else none) 0

-- A part of an IPv4 address: decimal, octal after a zero, hexadecimal after `0x`. The value may be
-- too large for an address.
def addressPart? (cs : List Char) : Option Nat :=
  match cs with
  | [] => none
  | '0' :: 'x' :: rest => digitsIn? 16 rest
  | '0' :: 'X' :: rest => digitsIn? 16 rest
  | '0' :: c :: rest => digitsIn? 8 (c :: rest)
  | other => digitsIn? 10 other

def dropLastEmpty (parts : List (List Char)) : List (List Char) :=
  match parts.reverse with
  | [] :: rest => rest.reverse
  | _ => parts

-- Whether the last part of a domain is a number, so that the whole has to be an IPv4 address.
def endsInNumber (domain : List Char) : Bool :=
  let parts := Text.splitAt (· == '.') domain
  let last := match parts.reverse with
    | [] :: before :: _ => some before
    | [] :: [] => none
    | l :: _ => some l
    | [] => none
  match last with
  | none => false
  | some l => (!l.isEmpty && l.all Char.isDigit) || (addressPart? l).isSome

-- Up to four parts; the last one fills the bytes that are left.
def ipv4? (domain : List Char) : Option Nat := do
  let parts := dropLastEmpty (Text.splitAt (· == '.') domain)
  if 4 < parts.length then none
  else do
    let numbers ← parts.mapM addressPart?
    let last ← numbers.getLast?
    let leading := numbers.dropLast
    if Nat.pow 256 (4 - leading.length) ≤ last ∨ leading.any (255 < ·) then none
    else some (leading.zipIdx.foldl (fun sum (n, i) => sum + n * Nat.pow 256 (3 - i)) last)

-- Four decimal numbers below 256 with points between them and no leading zeros.
def dottedBytes? (cs : List Char) : Option (List Nat) :=
  let parts := Text.splitAt (· == '.') cs
  if parts.length ≠ 4 then none
  else parts.mapM fun part =>
    if part.isEmpty || (1 < part.length && part.head? == some '0') || 3 < part.length then none
    else (digitsIn? 10 part).bind fun n => if n < 256 then some n else none

-- The pieces of an IPv6 address; `gap` is the place of `::` among those read, if there was one.
structure Pieces where
  read : List Nat
  gap : Option Nat

-- Read pieces from here on; a gap counts as a piece.
def readPieces : (fuel : Nat) → Pieces → List Char → Option Pieces
  | _, p, [] => some p
  | 0, _, _ => none
  | fuel + 1, p, cs =>
    let seen := p.read.length + if p.gap.isSome then 1 else 0
    if seen = 8 then none
    else match cs with
    | ':' :: rest =>
      if p.gap.isSome then none else readPieces fuel { p with gap := some p.read.length } rest
    | _ =>
      let figures := (cs.take 4).takeWhile fun c => (Json.hexValue? c).isSome
      let after := cs.drop figures.length
      let piece := p.read ++ [(digitsIn? 16 figures).getD 0]
      match after with
      | [] => some { p with read := piece }
      | '.' :: _ =>
        if figures.isEmpty || 6 < seen then none
        else do
          let bytes ← dottedBytes? cs
          match bytes with
          | [a, b, c, d] => some { p with read := p.read ++ [a * 256 + b, c * 256 + d] }
          | _ => none
      | ':' :: [] => none
      | ':' :: rest => readPieces fuel { p with read := piece } rest
      | _ => none

-- The eight pieces of an IPv6 address, the gap filled with zeros.
def ipv6? (cs : List Char) : Option (List Nat) := do
  let p ← match cs with
    | ':' :: ':' :: rest => readPieces cs.length ⟨[], some 0⟩ rest
    | ':' :: _ => none
    | [] => none
    | [_] => none
    | other => readPieces other.length ⟨[], none⟩ other
  match p.gap with
  | none => if p.read.length = 8 then some p.read else none
  | some g => some (p.read.take g ++ List.replicate (8 - p.read.length) 0 ++ p.read.drop g)

end Stepwise.Url
