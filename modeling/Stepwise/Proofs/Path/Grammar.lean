import Stepwise.Proofs.Path.Cut
import Stepwise.Proofs.Path.Spelling
import Stepwise.Proofs.Text.Blank

namespace Stepwise.Path

open Text (Blank)

-- A value with the quotes it stands between.
structure Literal where
  quote : Char
  value : List Char

namespace Literal

def written (l : Literal) : List Char := l.quote :: l.value ++ [l.quote]

-- A quoted value ends at its second quote.
structure Proper (l : Literal) : Prop where
  isQuote : isQuote l.quote = true
  not_mem : l.quote ∉ l.value

-- A quoted value may go on behind its second quote, as long as it ends with a quote that closes.
structure Closed (l : Literal) : Prop where
  isQuote : isQuote l.quote = true
  closes : Sealed l.written

end Literal

-- How a condition may be written between its brackets, with white space around an attribute, behind
-- an equals sign or comma and before a closing parenthesis. Beside it stand its quoted values.
inductive Condition.Worded : Condition → List Literal → List Char → Prop
  | position {n : Nat} {sign digits : List Char} (hsign : sign = [] ∨ sign = ['+'])
    (hne : digits ≠ []) (hdigits : ∀ c ∈ digits, c.isDigit = true)
    (hvalue : Nat.ofDigitChars 10 digits 0 = n) (hlow : 1 ≤ n) (hhigh : n < 0x10000000000000000) :
    Worded (.position n) [] (sign ++ digits)
  | present {a : String} {front : List Char} (ha : isName a.toList = true) (hfront : Blank front) :
    Worded (.present a) [] ('@' :: front ++ a.toList)
  | equal {a : String} {l : Literal} {front back gap : List Char} (ha : isName a.toList = true)
    (hfront : Blank front) (hback : Blank back) (hgap : Blank gap) :
    Worded (.equal a (String.ofList l.value)) [l]
      ('@' :: front ++ a.toList ++ back ++ '=' :: gap ++ l.written)
  | part {a : String} {l : Literal} {front back gap last : List Char} (ha : isName a.toList = true)
    (hfront : Blank front) (hback : Blank back) (hgap : Blank gap) (hlast : Blank last) :
    Worded (.part a (String.ofList l.value)) [l]
      ("contains(".toList ++
        (front ++ '@' :: a.toList ++ back ++ ',' :: gap ++ l.written ++ last) ++ [')'])

-- Conditions in their brackets, one right after the other. White space may stand in the brackets.
inductive Conditions.Worded : List Condition → List Literal → List Char → Prop
  | nil : Worded [] [] []
  | cons {c : Condition} {conditions : List Condition} {ls ls' : List Literal}
    {front inner back text : List Char} (hfront : Blank front) (hback : Blank back)
    (hinner : c.Worded ls inner) (htext : Worded conditions ls' text) :
    Worded (c :: conditions) (ls ++ ls') ('[' :: (front ++ inner ++ back) ++ ']' :: text)

inductive Step.Worded (s : Step) (ls : List Literal) : List Char → Prop
  | intro {text : List Char} (htest : s.test.Proper) (htext : Conditions.Worded s.conditions ls text) :
    Worded s ls (s.test.written ++ text)

inductive Steps.Worded (ending : Ending) : List Step → List Literal → List Char → Prop
  | ending (hending : ending.Proper) : Worded ending [] [] ending.written
  | step {s : Step} {steps : List Step} {ls ls' : List Literal} {body text : List Char}
    (hbody : s.Worded ls body) (htext : Worded ending steps ls' text) :
    Worded ending (s :: steps) (ls ++ ls') (s.axis.written ++ body ++ text)

-- A path as a text, with white space around it: at least one element step, and perhaps a last step
-- that says what to take. The quoted values are those of all its conditions.
inductive Worded (path : Path) (ls : List Literal) : List Char → Prop
  | intro {ending : Ending} {front body back : List Char} (hfront : Blank front) (hback : Blank back)
    (hne : path.steps ≠ []) (htarget : path.target = ending.target)
    (hbody : Steps.Worded ending path.steps ls body) : Worded path ls (front ++ body ++ back)

-- The texts of paths whose quoted values do not hold their own quotes.
def Documented (text : List Char) : Prop :=
  ∃ path ls, Worded path ls text ∧ ∀ l ∈ ls, l.Proper

end Stepwise.Path
