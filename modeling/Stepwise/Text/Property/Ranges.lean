import Stepwise.Text.Blank

namespace Stepwise.Text

-- A set of characters as ascending, disjoint ranges of code points, ends included.
abbrev Ranges := List (Nat × Nat)

namespace Ranges

def hexValue (c : Char) : Nat :=
  if c.isDigit then c.toNat - '0'.toNat else c.toNat - 'a'.toNat + 10

def number (cs : List Char) : Nat := cs.foldl (fun n c => n * 16 + hexValue c) 0

-- Lower-case hexadecimal numbers with `-` between the ends of a range and a blank between ranges.
def ofChars : (low value : Nat) → (inRange : Bool) → List Char → Ranges
  | low, value, inRange, [] => [(if inRange then low else value, value)]
  | low, value, inRange, c :: cs =>
    if c = ' ' then (if inRange then low else value, value) :: ofChars 0 0 false cs
    else if c = '-' then ofChars value 0 true cs
    else ofChars low (value * 16 + hexValue c) inRange cs

def ofString (s : String) : Ranges := ofChars 0 0 false s.toList

def ofLines (lines : List String) : Ranges := lines.flatMap ofString

-- The entries of a table with blanks between them.
def wordsOf (lines : List String) : List (List Char) :=
  lines.flatMap fun l => splitAt (· == ' ') l.toList

def hasCode : Ranges → Nat → Bool
  | [], _ => false
  | (low, high) :: rest, n => if n < low then false else if n ≤ high then true else hasCode rest n

def has (ranges : Ranges) (c : Char) : Bool := hasCode ranges c.toNat

-- Join ranges in ascending order that overlap or touch.
def join : (low high : Nat) → Ranges → Ranges
  | low, high, [] => [(low, high)]
  | low, high, (a, b) :: rest =>
    if a ≤ high + 1 then join low (max high b) rest else (low, high) :: join a b rest

-- The same set, as ascending, disjoint ranges.
def normalize (ranges : Ranges) : Ranges :=
  match ranges.mergeSort fun x y => x.1 ≤ y.1 with
  | [] => []
  | (low, high) :: rest => join low high rest

def union (a b : Ranges) : Ranges := normalize (a ++ b)

-- The numbers from `next` up to `top` that are in no range.
def gaps (top next : Nat) : Ranges → Ranges
  | [] => if next ≤ top then [(next, top)] else []
  | (low, high) :: rest =>
    if next < low then (next, low - 1) :: gaps top (high + 1) rest else gaps top (high + 1) rest

def complement (top : Nat) (ranges : Ranges) : Ranges := gaps top 0 ranges

def inter (top : Nat) (a b : Ranges) : Ranges :=
  complement top (union (complement top a) (complement top b))

def diff (top : Nat) (a b : Ranges) : Ranges := inter top a (complement top b)

end Ranges

end Stepwise.Text
