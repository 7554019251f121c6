import Stepwise.Text.Property.Alphabetic
import Stepwise.Text.Property.Category
import Stepwise.Text.Property.Script

namespace Stepwise.Pattern.CharSet

open Text (Ranges)

def topChar : Nat := 0x10FFFF

def topByte : Nat := 0xFF

def everything : Ranges := [(0, topChar)]

def blanks : Ranges := .ofString "9-d 20 85 a0 1680 2000-200a 2028-2029 202f 205f 3000"

-- Circled letters and letters in squares, which count as letters although they are symbols.
def enclosedLetters : Ranges := .ofString "24b6-24e9 1f130-1f149 1f150-1f169 1f170-1f189"

def unionAll (sets : List Ranges) : Ranges := Ranges.normalize sets.flatten

def letters : Ranges :=
  unionAll [Text.Category.ll, Text.Category.lu, Text.Category.lt, Text.Category.lm, Text.Category.lo]

def marks : Ranges := unionAll [Text.Category.mn, Text.Category.mc, Text.Category.me]

-- What words are made of.
def wordChars : Ranges :=
  unionAll [letters, marks, Text.Category.nd, Text.Category.nl, Text.Category.pc, enclosedLetters,
    [(0x200C, 0x200D)]]

def asciiWordChars : Ranges := .ofString "30-39 41-5a 5f 61-7a"

def assigned : Ranges := unionAll (Text.Category.all.map (·.2) ++ [[(0xD800, 0xDFFF)]])

-- The sets that a single letter stands for after a backslash.
def short? (wide : Bool) (c : Char) : Option Ranges :=
  match c with
  | 'd' => some (if wide then Text.Category.nd else .ofString "30-39")
  | 's' => some (if wide then blanks else .ofString "9-d 20")
  | 'w' => some (if wide then wordChars else asciiWordChars)
  | _ => none

-- The sets that stand between colons in brackets.
def ascii? (name : String) : Option Ranges :=
  let ranges := match name with
    | "alnum" => some "30-39 41-5a 61-7a"
    | "alpha" => some "41-5a 61-7a"
    | "ascii" => some "0-7f"
    | "blank" => some "9 20"
    | "cntrl" => some "0-1f 7f"
    | "digit" => some "30-39"
    | "graph" => some "21-7e"
    | "lower" => some "61-7a"
    | "print" => some "20-7e"
    | "punct" => some "21-2f 3a-40 5b-60 7b-7e"
    | "space" => some "9-d 20"
    | "upper" => some "41-5a"
    | "word" => some "30-39 41-5a 5f 61-7a"
    | "xdigit" => some "30-39 41-46 61-66"
    | _ => none
  ranges.map Ranges.ofString

def dropIs : List Char → List Char
  | 'i' :: 's' :: rest => rest
  | cs => cs

-- Case, spaces, hyphens, low lines and a leading `is` do not count in the name of a property.
def plainName (cs : List Char) : String :=
  String.ofList (dropIs (Text.lowerAscii
    (cs.filter fun c => !Text.isBlank c && c != '_' && c != '-' && c.toNat < 0x80)))

def longNames : List (String × String) :=
  [("uppercaseletter", "lu"), ("lowercaseletter", "ll"), ("titlecaseletter", "lt"),
   ("modifierletter", "lm"), ("otherletter", "lo"), ("nonspacingmark", "mn"), ("spacingmark", "mc"),
   ("enclosingmark", "me"), ("decimalnumber", "nd"), ("digit", "nd"), ("letternumber", "nl"),
   ("othernumber", "no"), ("connectorpunctuation", "pc"), ("dashpunctuation", "pd"),
   ("openpunctuation", "ps"), ("closepunctuation", "pe"), ("initialpunctuation", "pi"),
   ("finalpunctuation", "pf"), ("otherpunctuation", "po"), ("mathsymbol", "sm"),
   ("currencysymbol", "sc"), ("modifiersymbol", "sk"), ("othersymbol", "so"),
   ("spaceseparator", "zs"), ("lineseparator", "zl"), ("paragraphseparator", "zp"),
   ("control", "cc"), ("cntrl", "cc"), ("format", "cf"), ("surrogate", "cs"), ("privateuse", "co"),
   ("unassigned", "cn"), ("casedletter", "lc"), ("letter", "l"), ("mark", "m"),
   ("combiningmark", "m"), ("number", "n"), ("punctuation", "p"), ("punct", "p"), ("symbol", "s"),
   ("separator", "z"), ("other", "c")]

-- The categories whose short names begin alike.
def group (first : Char) : Ranges :=
  unionAll ((Text.Category.all.filter fun c => c.1.toList.head? == some first).map (·.2))

def category? (name : String) : Option Ranges :=
  match (longNames.lookup name).getD name with
  | "l" => some (group 'L')
  | "m" => some (group 'M')
  | "n" => some (group 'N')
  | "p" => some (group 'P')
  | "s" => some (group 'S')
  | "z" => some (group 'Z')
  | "lc" => some (unionAll [Text.Category.ll, Text.Category.lu, Text.Category.lt])
  | "cs" => some []
  | "cn" => some (Ranges.complement topChar assigned)
  | "c" => some (unionAll [group 'C', Ranges.complement topChar assigned])
  | "any" => some everything
  | "assigned" => some (Ranges.diff topChar assigned [(0xD800, 0xDFFF)])
  | "ascii" => some [(0, 0x7F)]
  | name => (Text.Category.all.find? fun c => Text.lowerAscii c.1.toList == name.toList).map (·.2)

-- Properties that a character has or has not.
def binary? (name : String) : Option Ranges :=
  match name with
  | "whitespace" | "wspace" | "space" => some blanks
  | "alphabetic" | "alpha" => some (unionAll [letters, Text.Category.nl, enclosedLetters, Text.alphabeticMarks])
  | "uppercase" | "upper" =>
    some (unionAll [Text.Category.lu, .ofString "2160-216f 24b6-24cf 1f130-1f149 1f150-1f169 1f170-1f189"])
  | "lowercase" | "lower" =>
    some (unionAll [Text.Category.ll, .ofString
      "aa ba 2b0-2b8 2c0-2c1 2e0-2e4 345 37a 10fc 1d2c-1d6a 1d78 1d9b-1dbf 2071 207f 2090-209c",
      .ofString "2170-217f 24d0-24e9 2c7c-2c7d a69c-a69d a770 a7f2-a7f4 a7f8-a7f9 ab5c-ab5f ab69",
      .ofString "10780 10783-10785 10787-107b0 107b2-107ba 1e030-1e06d"])
  | "hexdigit" | "hex" => some (.ofString "30-39 41-46 61-66 ff10-ff19 ff21-ff26 ff41-ff46")
  | "asciihexdigit" | "ahex" => some (.ofString "30-39 41-46 61-66")
  | _ => none

-- A property by its name alone.
def named? (cs : List Char) : Option Ranges :=
  let name := plainName cs
  (binary? name).or ((category? name).or (Text.Script.all.lookup name))

-- A property by its name and value.
def valued? (name value : List Char) : Option Ranges :=
  match plainName name with
  | "gc" | "generalcategory" => category? (plainName value)
  | "sc" | "script" | "scx" | "scriptextensions" => Text.Script.all.lookup (plainName value)
  | _ => none

end Stepwise.Pattern.CharSet
