import Stepwise.Text.Blank

namespace Stepwise.Selector

inductive Combinator
  | child | descendant | next | later
deriving DecidableEq

-- How the value of an attribute is compared with the one in the selector.
inductive Operator
  | equal | word | dash | start | finish | part
deriving DecidableEq

-- Whether the case of ASCII letters counts in a value. `byElement` lets it count outside html.
inductive CaseRule
  | counts | ignored | byElement
deriving DecidableEq

structure ValueTest where
  op : Operator
  value : String
  rule : CaseRule
deriving DecidableEq

-- The indices `step * n + offset` for `n = 0, 1, 2, …`.
structure Progression where
  step : Int
  offset : Int
deriving DecidableEq

mutual

inductive Simple
  | universal
  | name (name : String)
  -- An element of no vocabulary; no page holds one.
  | noSpace
  | id (value : String)
  | className (value : String)
  | attr (anySpace : Bool) (name : String) (test : Option ValueTest)
  | root
  | empty
  | nth (ofKind fromEnd : Bool) (indices : Progression)
  | only (ofKind : Bool)
  | either (alternatives : List Complex)
  | neither (alternatives : List Complex)
  | has (alternatives : List Complex)
  -- The element that a relative selector starts from.
  | anchor
  -- A selector that cannot be read, where that does no harm.
  | never

inductive Complex
  | compound (parts : List Simple)
  | joined (left : Complex) (combinator : Combinator) (parts : List Simple)

end

end Stepwise.Selector

namespace Stepwise

-- An element is selected by any of the alternatives.
structure Selector where
  alternatives : List Selector.Complex

end Stepwise
