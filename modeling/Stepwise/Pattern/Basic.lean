import Stepwise.Text.Property.Ranges

namespace Stepwise

namespace Pattern

-- A condition on the characters on both sides of a place. `wide` counts the letters of all
-- scripts as parts of words, not only those of ASCII.
inductive Look
  | start | finish
  | lineStart | lineEnd
  -- The same where a carriage return ends a line too, alone or before a line feed.
  | returnStart | returnEnd
  | boundary (wide : Bool)
  | noBoundary (wide : Bool)
  | wordStart (wide : Bool)
  | wordEnd (wide : Bool)
  | wordStartHalf (wide : Bool)
  | wordEndHalf (wide : Bool)
deriving DecidableEq

end Pattern

-- A regular expression.
inductive Pattern
  | empty
  | char (set : Text.Ranges)
  | look (l : Pattern.Look)
  | seq (a b : Pattern)
  -- The first alternative is preferred.
  | alt (a b : Pattern)
  -- A greedy repetition prefers to go on.
  | times (p : Pattern) (least : Nat) (most : Option Nat) (greedy : Bool)

namespace Pattern

def canBeEmpty : Pattern → Bool
  | empty | look _ => true
  | char _ => false
  | seq a b => a.canBeEmpty && b.canBeEmpty
  | alt a b => a.canBeEmpty || b.canBeEmpty
  | times p least _ _ => least = 0 || p.canBeEmpty

def byteLength (n : Nat) : Nat :=
  if n < 0x80 then 1 else if n < 0x800 then 2 else if n < 0x10000 then 3 else 4

-- How much room a matcher for a set takes, in bytes.
def setWeight (set : Text.Ranges) : Nat :=
  match set with
  | [(low, high)] => if low = high then 32 * byteLength low else if high < 0x80 then 64 else 520
  | _ => if set.all fun r => r.2 < 0x80 then 64 + 8 * set.length else 400 + 60 * set.length

-- How much room a matcher takes, in bytes.
def weight : Pattern → Nat
  | empty | look _ => 32
  | char set => setWeight set
  | seq a b => a.weight + b.weight
  | alt a b => a.weight + b.weight + 40
  | times p least most _ =>
    match most with
    | none => (max least 1) * p.weight + 40
    | some most => least * p.weight + (most - least) * (p.weight + 40)

def maxWeight : Nat := 10 * 0x100000

end Pattern

end Stepwise
