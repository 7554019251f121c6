import Stepwise.Path.Reader

namespace Stepwise

namespace Path

-- How a condition is written between its brackets. A value stands between two equal quotes and does
-- not hold them.
inductive Condition.Spelled : Condition → List Char → Prop
  | position {n : Nat} (hlow : 1 ≤ n) (hhigh : n < 0x10000000000000000) :
    Spelled (.position n) (Nat.toDigits 10 n)
  | present {a : String} (ha : isName a.toList = true) : Spelled (.present a) ('@' :: a.toList)
  | equal {a v : String} {q : Char} (ha : isName a.toList = true) (hq : isQuote q = true)
    (hv : q ∉ v.toList) : Spelled (.equal a v) ('@' :: a.toList ++ '=' :: q :: v.toList ++ [q])
  | part {a v : String} {q : Char} (ha : isName a.toList = true) (hq : isQuote q = true)
    (hv : q ∉ v.toList) :
    Spelled (.part a v)
      ("contains(".toList ++ '@' :: a.toList ++ ',' :: q :: v.toList ++ [q] ++ [')'])

-- Each condition in its brackets, one after the other.
inductive Bracketed : List Condition → List Char → Prop
  | nil : Bracketed [] []
  | cons {c : Condition} {conditions : List Condition} {inner text : List Char}
    (hinner : c.Spelled inner) (htext : Bracketed conditions text) :
    Bracketed (c :: conditions) ('[' :: inner ++ ']' :: text)

def NameTest.Proper : NameTest → Prop
  | any => True
  | name n => isName n.toList = true

instance (test : NameTest) : Decidable test.Proper :=
  match test with
  | .any => inferInstanceAs (Decidable True)
  | .name n => inferInstanceAs (Decidable (isName n.toList = true))

inductive Step.Spelled (s : Step) : List Char → Prop
  | intro {text : List Char} (htest : s.test.Proper) (htext : Bracketed s.conditions text) :
    Spelled s (s.test.written ++ text)

-- What a path ends in: its last element step, or a step that says what to take from there.
inductive Ending
  | element
  | text (axis : Axis)
  | attr (axis : Axis) (name : String)

namespace Ending

def Proper : Ending → Prop
  | attr _ a => isName a.toList = true
  | _ => True

def target : Ending → Target
  | attr _ a => .attr a
  | _ => .text

def written : Ending → List Char
  | element => []
  | text axis => axis.written ++ "text()".toList
  | attr axis a => axis.written ++ '@' :: a.toList

end Ending

-- A path as a text: its steps, each behind its axis, and its ending.
inductive Spelled (ending : Ending) : List Step → List Char → Prop
  | ending (hending : ending.Proper) : Spelled ending [] ending.written
  | step {s : Step} {steps : List Step} {body text : List Char} (hbody : s.Spelled body)
    (htext : Spelled ending steps text) : Spelled ending (s :: steps) (s.axis.written ++ body ++ text)

end Path

end Stepwise
