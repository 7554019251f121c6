import Stepwise.Text.Blank

namespace Stepwise

namespace Path

-- Where a step looks, seen from the element of the step before it.
inductive Axis
  | child | descendant
deriving DecidableEq

inductive NameTest
  | any
  | name (name : String)
deriving DecidableEq

-- What else an element has to satisfy.
inductive Condition
  | position (n : Nat)
  | present (attr : String)
  | equal (attr value : String)
  | part (attr value : String)
deriving DecidableEq

structure Step where
  axis : Axis
  test : NameTest
  conditions : List Condition
deriving DecidableEq

-- What is taken from the element that is found.
inductive Target
  | text
  | attr (name : String)
deriving DecidableEq

-- Letters, digits and `-`, `_`, `:`, with a letter or `_` in front, all of them ASCII.
def isName : List Char → Bool
  | [] => false
  | c :: rest =>
    (c.isAlpha || c == '_') && rest.all fun c => c.isAlphanum || c == '-' || c == '_' || c == ':'

end Path

structure Path where
  steps : List Path.Step
  target : Path.Target
deriving DecidableEq

namespace Path

-- A value between the quotes of a selector: a backslash goes before each backslash and quote.
def escape : List Char → List Char
  | [] => []
  | c :: rest => if c = '\\' ∨ c = '"' then '\\' :: c :: escape rest else c :: escape rest

def quoted (value : String) : List Char := '"' :: escape value.toList ++ ['"']

def NameTest.selectorText : NameTest → List Char
  | any => ['*']
  | name n => n.toList

def Condition.selectorText : Condition → List Char
  | position n => ":nth-of-type(".toList ++ (Nat.toDigits 10 n) ++ [')']
  | present a => '[' :: a.toList ++ [']']
  | equal a v => '[' :: a.toList ++ '=' :: quoted v ++ [']']
  | part a v => '[' :: a.toList ++ '*' :: '=' :: quoted v ++ [']']

def Step.compoundText (s : Step) : List Char :=
  s.test.selectorText ++ s.conditions.flatMap Condition.selectorText

def Axis.combinatorText : Axis → List Char
  | child => [' ', '>', ' ']
  | descendant => [' ']

-- The steps as a selector. Nothing stands for the axis of the first step.
def selectorText (p : Path) : List Char :=
  match p.steps with
  | [] => []
  | first :: rest =>
    first.compoundText ++ rest.flatMap fun s => s.axis.combinatorText ++ s.compoundText

def quote (value : List Char) : List Char :=
  if '\'' ∈ value then '"' :: value ++ ['"'] else '\'' :: value ++ ['\'']

def NameTest.written : NameTest → List Char := NameTest.selectorText

def Condition.written : Condition → List Char
  | position n => '[' :: Nat.toDigits 10 n ++ [']']
  | present a => '[' :: '@' :: a.toList ++ [']']
  | equal a v => '[' :: '@' :: a.toList ++ '=' :: quote v.toList ++ [']']
  | part a v => "[contains(@".toList ++ a.toList ++ ',' :: quote v.toList ++ [')', ']']

def Axis.written : Axis → List Char
  | child => ['/']
  | descendant => ['/', '/']

def Step.written (s : Step) : List Char :=
  s.axis.written ++ s.test.written ++ s.conditions.flatMap Condition.written

end Path

end Stepwise
