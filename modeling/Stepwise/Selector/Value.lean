import Stepwise.Selector.Token

namespace Stepwise.Selector

-- Words with their brackets matched.
inductive Value
  | token (t : Token)
  | block (opener : Opener) (content : List Value)

namespace Value

-- What is read inside the innermost open bracket, backwards, and for each open bracket what stands
-- before it.
structure Frame where
  current : List Value
  outer : List (Opener × List Value)

def Frame.push (f : Frame) (t : Token) : Frame :=
  match t, f.outer with
  | .opener o, _ => ⟨[], (o, f.current) :: f.outer⟩
  | .closer c, (o, before) :: outer =>
    if o.closer = c then ⟨.block o f.current.reverse :: before, outer⟩
    else { f with current := .token t :: f.current }
  | _, _ => { f with current := .token t :: f.current }

-- The end of the text closes all that is open.
def close (current : List Value) : List (Opener × List Value) → List Value
  | [] => current.reverse
  | (o, before) :: outer => close (.block o current.reverse :: before) outer

def ofTokens (ts : List Token) : List Value :=
  let f := ts.foldl Frame.push ⟨[], []⟩
  close f.current f.outer

def isSpace : Value → Bool
  | .token .space => true
  | _ => false

def isComma : Value → Bool
  | .token .comma => true
  | _ => false

mutual

-- Whether a broken word or a bracket without its partner is in a value.
def isBroken : Value → Bool
  | .token .broken => true
  | .token (.closer _) => true
  | .token _ => false
  | .block _ content => anyBroken content

def anyBroken : List Value → Bool
  | [] => false
  | v :: rest => v.isBroken || anyBroken rest

end

end Value

-- What stands behind the spaces.
def skipSpaces (vs : List Value) : List Value := vs.dropWhile Value.isSpace

end Stepwise.Selector
