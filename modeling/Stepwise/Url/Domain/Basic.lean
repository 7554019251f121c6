import Stepwise.Text.Composition
import Stepwise.Text.Property.Direction
import Stepwise.Text.Property.Joining
import Stepwise.Url.Domain.Mapping
import Stepwise.Url.Domain.Punycode

namespace Stepwise.Url.Domain

open Stepwise.Text

-- ASCII characters that no domain may hold.
def isForbidden (c : Char) : Bool :=
  c.toNat ≤ 0x20 || c.toNat == 0x7F || "#/:<>?@[\\]^%|".toList.contains c

-- A joiner may stand straight after a virama. The one that keeps letters apart may also stand between
-- two letters that would be joined without it. What stands before is given latest first.
def joinerAllowed (before : List Char) (c : Char) (rest : List Char) : Bool :=
  before.head?.any (Combining.classOf · == Combining.virama) ||
    (c == '\u200c' && Joining.meets Joining.leading before && Joining.meets Joining.trailing rest)

def joinersAllowed : (before : List Char) → List Char → Bool
  | _, [] => true
  | before, c :: rest =>
    (if c = '\u200c' ∨ c = '\u200d' then joinerAllowed before c rest else true) &&
      joinersAllowed (c :: before) rest

def isMark (c : Char) : Bool := Category.mn.has c || Category.mc.has c || Category.me.has c

def startsWell : List Char → Bool
  | c :: _ => !isMark c
  | [] => true

def encodedMark : List Char := ['x', 'n', '-', '-']

-- The characters that a prepared label stands for; `none` when it is not a valid label.
def labelChars? (label : List Char) : Option (List Char) :=
  if encodedMark.isPrefixOf label then do
    let decoded ← if label.all (·.toNat < 128) then decodeLabel (label.drop 4) else none
    -- A label that has another prepared form than its own was not written by an encoder.
    let settled := (decoded.all fun c => prepareChar c == some [c]) && normalize decoded == decoded
    if !decoded.isEmpty && !decoded.all (·.toNat < 128) && settled && startsWell decoded &&
        joinersAllowed [] decoded then some decoded else none
  else if startsWell label && joinersAllowed [] label then some label
  else none

-- The direction rule for one label of a domain that holds right-to-left text.
def followsDirection (label : List Char) : Bool :=
  let directions := label.map Direction.ofChar
  let last := (directions.reverse.dropWhile (· == .mark)).head?
  match directions.head? with
  | none => true
  | some .right =>
    directions.all (fun d => d != .left && d != .other) &&
      (last == some .right || last == some .europeanNumber || last == some .arabicNumber) &&
      !(directions.contains .europeanNumber && directions.contains .arabicNumber)
  | some .left =>
    directions.all (fun d => d == .left || d == .europeanNumber || d == .neutral || d == .mark) &&
      (last == some .left || last == some .europeanNumber)
  | some _ => false

def holdsRightToLeft (label : List Char) : Bool :=
  label.any fun c => Direction.ofChar c == .right || Direction.ofChar c == .arabicNumber

-- The prepared form of a domain name, or `none` when the name is not valid. Labels in Punycode stay
-- as they are written.
def prepare? (name : List Char) : Option (List Char) := do
  let prepared := normalize (← name.mapM prepareChar).flatten
  let labels := splitAt (· == '.') prepared
  let texts ← labels.mapM labelChars?
  if texts.any (·.any isForbidden) then none
  else if texts.any holdsRightToLeft && !texts.all followsDirection then none
  else some prepared

end Stepwise.Url.Domain
