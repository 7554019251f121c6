import Stepwise.Toml.Text.Reader

namespace Stepwise.Toml

-- What decides how a text is quoted.
def hasControl (s : List Char) : Bool := s.any fun c => !isPlain c && c != '\n'

def hasBackslash (s : List Char) : Bool := s.contains '\\'

def hasLineEnd (s : List Char) : Bool := s.contains '\n'

-- The length of the longest run of a character; `sofar` counts the run that is under way.
def longestRun (c : Char) : (sofar : Nat) → List Char → Nat
  | sofar, [] => sofar
  | sofar, d :: rest =>
    if d = c then longestRun c (sofar + 1) rest else max sofar (longestRun c 0 rest)

inductive Style
  | basic
  | literal
  | longBasic
  | longLiteral
deriving DecidableEq

-- The first style that needs no escape except for tabs; without one, a basic style.
def Style.of (s : List Char) : Style :=
  let double := longestRun '"' 0 s
  let single := longestRun '\x27' 0 s
  if !hasControl s && !hasBackslash s && double = 0 && !hasLineEnd s then .basic
  else if !hasControl s && single = 0 && !hasLineEnd s then .literal
  else if !hasControl s && !hasBackslash s && double ≤ 2 then .longBasic
  else if !hasControl s && single ≤ 2 then .longLiteral
  else if hasLineEnd s then .longBasic
  else .basic

def hexDigit (n : Nat) : Char := "0123456789ABCDEF".toList.getD n '0'

-- A character other than a quote, as it stands between double quotes.
def escaped (long : Bool) (c : Char) : List Char :=
  if c = '\x08' then ['\\', 'b']
  else if c = '\t' then ['\\', 't']
  else if c = '\n' then if long then ['\n'] else ['\\', 'n']
  else if c = '\x0c' then ['\\', 'f']
  else if c = '\r' then ['\\', 'r']
  else if c = '\\' then ['\\', '\\']
  else if isPlain c then [c]
  else ['\\', 'u', '0', '0', hexDigit (c.toNat / 16), hexDigit (c.toNat % 16)]

-- Between double quotes. Of a run of quotes as many as are allowed, two in a text over several lines
-- and none on one line, stand as they are, and the next is escaped; `sofar` counts them.
def writeEscaped (long : Bool) : (sofar : Nat) → List Char → List Char
  | _, [] => []
  | sofar, c :: rest =>
    if c = '"' then
      if long && sofar < 2 then c :: writeEscaped long (sofar + 1) rest
      else '\\' :: c :: writeEscaped long 0 rest
    else escaped long c ++ writeEscaped long 0 rest

-- A text over several lines begins on a line of its own.
def opening (s : List Char) : List Char := if hasLineEnd s then ['\n'] else []

def writeAs (s : List Char) : Style → List Char
  | .basic => '"' :: writeEscaped false 0 s ++ ['"']
  | .literal => '\x27' :: s ++ ['\x27']
  | .longBasic => ['"', '"', '"'] ++ opening s ++ writeEscaped true 0 s ++ ['"', '"', '"']
  | .longLiteral => ['\x27', '\x27', '\x27'] ++ opening s ++ s ++ ['\x27', '\x27', '\x27']

def writeText (s : List Char) : List Char := writeAs s (.of s)

end Stepwise.Toml
