import Stepwise.Markup.Entity.Names
import Stepwise.Text.Blank

namespace Stepwise.Markup.Entity

structure Entry where
  name : List Char
  text : List Char

def hexValue (c : Char) : Nat :=
  if c.isDigit then c.toNat - '0'.toNat else c.toLower.toNat - 'a'.toNat + 10

def isHexDigit (c : Char) : Bool :=
  c.isDigit || ('a' ≤ c && c ≤ 'f') || ('A' ≤ c && c ≤ 'F')

def hexNumber (cs : List Char) : Nat := cs.foldl (fun n c => n * 16 + hexValue c) 0

def Entry.ofChars (cs : List Char) : Entry where
  name := cs.takeWhile (· ≠ '=')
  text :=
    (Text.splitAt (· == '+') ((cs.dropWhile (· ≠ '=')).drop 1)).map fun d => Char.ofNat (hexNumber d)

def wordsOf (lines : List String) : List (List Char) := lines.flatMap fun l => Text.words l.toList

def entries : List Entry := (wordsOf encoded).map Entry.ofChars

def unclosed : List (List Char) := wordsOf unclosedNames

-- What a reference stands for, whether a semicolon ends it, and what follows it.
structure Found where
  text : List Char
  closed : Bool
  rest : List Char

def longer (a : Option Found) (b : Found) : Option Found :=
  match a with
  | some f => if f.rest.length ≤ b.rest.length then some f else some b
  | none => some b

-- The longest name at the start of a text.
def named? (cs : List Char) : Option Found :=
  entries.foldl (fun best e =>
    if e.name.isPrefixOf cs then
      match cs.drop e.name.length with
      | ';' :: rest => longer best ⟨e.text, true, rest⟩
      | rest => if unclosed.contains e.name then longer best ⟨e.text, false, rest⟩ else best
    else best) none

-- The numbers from 80 to 9f stand for other characters, most of them.
def controlReplacements : List Nat :=
  [0x20AC, 0x81, 0x201A, 0x192, 0x201E, 0x2026, 0x2020, 0x2021, 0x2C6, 0x2030, 0x160, 0x2039, 0x152,
   0x8D, 0x17D, 0x8F, 0x90, 0x2018, 0x2019, 0x201C, 0x201D, 0x2022, 0x2013, 0x2014, 0x2DC, 0x2122,
   0x161, 0x203A, 0x153, 0x9D, 0x17E, 0x178]

def charOfCode (n : Nat) : Char :=
  if n = 0 ∨ ¬ n.isValidChar then '\uFFFD'
  else if 0x80 ≤ n ∧ n ≤ 0x9F then Char.ofNat (controlReplacements.getD (n - 0x80) n)
  else Char.ofNat n

def number? (isDigit : Char → Bool) (value : List Char → Nat) (cs : List Char) : Option Found :=
  let digits := cs.takeWhile isDigit
  if digits.isEmpty then none
  else
    let text := [charOfCode (value digits)]
    match cs.dropWhile isDigit with
    | ';' :: rest => some ⟨text, true, rest⟩
    | rest => some ⟨text, false, rest⟩

def decimalNumber (cs : List Char) : Nat :=
  cs.foldl (fun n c => n * 10 + (c.toNat - '0'.toNat)) 0

-- What stands behind an ampersand, if it is a reference.
def reference? (cs : List Char) : Option Found :=
  match cs with
  | '#' :: 'x' :: rest | '#' :: 'X' :: rest => number? isHexDigit hexNumber rest
  | '#' :: rest => number? Char.isDigit decimalNumber rest
  | c :: _ => if c.isAlphanum then named? cs else none
  | [] => none

-- In the value of an attribute, a name that could go on is no reference.
def referenceInValue? (cs : List Char) : Option Found :=
  match reference? cs with
  | none => none
  | some f =>
    if f.closed || cs.head? == some '#' then some f
    else match f.rest with
      | c :: _ => if c = '=' ∨ c.isAlphanum then none else some f
      | [] => some f

end Stepwise.Markup.Entity
