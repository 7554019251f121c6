import Stepwise.Path.Basic

namespace Stepwise.Path

inductive Fault
  | notRooted
  | unexpected (rest : String)
  | unbalanced
  | unterminated
  | notLast (step : String)
  | attributeName (name : String)
  | elementStep (step : String)
  | afterCondition (rest step : String)
  | positionZero
  | oneArgument
  | notAttribute
  | notQuoted (text : String)
  | unsupported (condition : String)
  | noElement
deriving DecidableEq

def Fault.message : Fault → String
  | notRooted => "path must start with / or //"
  | unexpected rest => "unexpected \"" ++ rest ++ "\""
  | unbalanced => "unbalanced ]"
  | unterminated => "unterminated predicate"
  | notLast step => "\"" ++ step ++ "\" must be the last step"
  | attributeName name => "invalid attribute name \"" ++ name ++ "\""
  | elementStep step => "invalid element step \"" ++ step ++ "\""
  | afterCondition rest step => "unexpected \"" ++ rest ++ "\" in step \"" ++ step ++ "\""
  | positionZero => "positions start at 1"
  | oneArgument => "contains() takes two arguments"
  | notAttribute => "contains() needs an @attribute"
  | notQuoted text => "expected a quoted string, got " ++ text
  | unsupported condition => "unsupported predicate \"[" ++ condition ++ "]\""
  | noElement => "path selects no element"

def isQuote (c : Char) : Bool := c == '\'' || c == '"'

-- Cut a step off at the next `/` outside brackets and quotes.
def cutStep (depth : Nat) (quote : Option Char) : List Char → Except Fault (List Char × List Char)
  | [] => if depth ≠ 0 ∨ quote.isSome then .error .unterminated else .ok ([], [])
  | c :: rest =>
    let onward (depth : Nat) (quote : Option Char) := do
      let (step, more) ← cutStep depth quote rest
      return (c :: step, more)
    match quote with
    | some q => onward depth (if c = q then none else some q)
    | none =>
      if isQuote c then onward depth (some c)
      else if c = '[' then onward (depth + 1) none
      else if c = ']' then
        match depth with
        | 0 => .error .unbalanced
        | d + 1 => onward d none
      else if c = '/' ∧ depth = 0 then .ok ([], c :: rest)
      else onward depth none

-- What stands before the next `]` outside quotes, and what follows it.
def cutCondition? (quote : Option Char) : List Char → Option (List Char × List Char)
  | [] => none
  | c :: rest =>
    let onward (quote : Option Char) := do
      let (inner, more) ← cutCondition? quote rest
      return (c :: inner, more)
    match quote with
    | some q => onward (if c = q then none else some q)
    | none =>
      if isQuote c then onward (some c) else if c = ']' then some ([], rest) else onward none

-- The text between two equal quotes.
def unquote (cs : List Char) : Except Fault (List Char) :=
  match cs with
  | c :: rest =>
    if isQuote c && rest.getLast? == some c then .ok rest.dropLast
    else .error (.notQuoted (String.ofList cs))
  | [] => .error (.notQuoted "")

-- Digits, perhaps after a `+`, of a number below 2^64.
def position? (cs : List Char) : Option Nat :=
  let digits := match cs with
    | '+' :: rest => rest
    | _ => cs
  if digits.isEmpty || !digits.all Char.isDigit then none
  else
    let n := digits.foldl (fun n c => n * 10 + (c.toNat - '0'.toNat)) 0
    if n < 0x10000000000000000 then some n else none

-- The text on both sides of the first `c`.
def splitOnce? (c : Char) : List Char → Option (List Char × List Char)
  | [] => none
  | d :: rest =>
    if d = c then some ([], rest) else (splitOnce? c rest).map fun (a, b) => (d :: a, b)

-- The arguments of `contains`.
def containsArguments? (cs : List Char) : Option (List Char) :=
  let word := "contains(".toList
  if word.isPrefixOf cs && (cs.drop word.length).getLast? == some ')' then
    some (cs.drop word.length).dropLast
  else none

def attributeName (cs : List Char) : Except Fault String :=
  if isName cs then .ok (String.ofList cs) else .error (.attributeName (String.ofList cs))

def readContains (arguments : List Char) : Except Fault Condition := do
  let some (attr, value) := splitOnce? ',' arguments | throw .oneArgument
  let '@' :: attr := Text.trim attr | throw .notAttribute
  let value ← unquote (Text.trim value)
  return .part (← attributeName attr) (String.ofList value)

def readAttribute (cs : List Char) : Except Fault Condition :=
  match splitOnce? '=' cs with
  | none =>
    if isName (Text.trim cs) then .ok (.present (String.ofList (Text.trim cs)))
    else .error (.attributeName (String.ofList cs))
  | some (attr, value) => do
    let attr ← attributeName (Text.trim attr)
    return .equal attr (String.ofList (← unquote (Text.trim value)))

def readCondition (cs : List Char) : Except Fault Condition :=
  match position? cs with
  | some 0 => .error .positionZero
  | some n => .ok (.position n)
  | none =>
    match containsArguments? cs with
    | some arguments => readContains arguments
    | none =>
      match cs with
      | '@' :: attr => readAttribute attr
      | _ => .error (.unsupported (String.ofList cs))

theorem length_of_cutCondition? {quote : Option Char} {cs inner more : List Char}
    (h : cutCondition? quote cs = some (inner, more)) : more.length < cs.length := by
  induction cs generalizing quote inner with
  | nil => simp [cutCondition?] at h
  | cons c rest ih =>
    have onward {q : Option Char}
        (h : (do let (i, m) ← cutCondition? q rest; return (c :: i, m)) = some (inner, more)) :
        more.length < (c :: rest).length := by
      simp only [Option.pure_def, Option.bind_eq_bind, Option.bind_eq_some_iff] at h
      obtain ⟨⟨i, m⟩, hcut, e⟩ := h
      cases e
      exact Nat.lt_succ_of_lt (ih hcut)
    simp only [cutCondition?] at h
    split at h
    · exact onward h
    · split at h
      · exact onward h
      · split at h
        · cases h; simp
        · exact onward h

-- The conditions of a step, each in its own brackets. `step` is the whole step.
def readConditions (step : List Char) (cs : List Char) : Except Fault (List Condition) :=
  match cs with
  | [] => .ok []
  | '[' :: rest =>
    match h : cutCondition? none rest with
    | none => .error .unterminated
    | some (inner, more) => do
      let condition ← readCondition (Text.trim inner)
      have := length_of_cutCondition? h
      let conditions ← readConditions step more
      return condition :: conditions
  | _ => .error (.afterCondition (String.ofList cs) (String.ofList step))
termination_by cs.length
decreasing_by simp only [List.length_cons]; omega

def readStep (axis : Axis) (cs : List Char) : Except Fault Step := do
  let name := cs.takeWhile (· ≠ '[')
  let test ←
    if name = ['*'] then .ok .any
    else if isName name then .ok (.name (String.ofList name))
    else .error (.elementStep (String.ofList cs))
  return { axis, test, conditions := ← readConditions cs (cs.dropWhile (· ≠ '[')) }

theorem length_of_cutStep {depth : Nat} {quote : Option Char} {cs step more : List Char}
    (h : cutStep depth quote cs = .ok (step, more)) : more.length ≤ cs.length := by
  induction cs generalizing depth quote step with
  | nil =>
    simp only [cutStep] at h
    split at h
    · cases h
    · cases h; simp
  | cons c rest ih =>
    have onward {d : Nat} {q : Option Char}
        (h : (do let (s, m) ← cutStep d q rest; return (c :: s, m)) =
          Except.ok (ε := Fault) (step, more)) : more.length ≤ (c :: rest).length := by
      cases e : cutStep d q rest with
      | error _ => simp [e, bind, Except.bind] at h
      | ok p =>
        simp only [e, bind, Except.bind, pure, Except.pure, Except.ok.injEq, Prod.mk.injEq] at h
        have := ih (show cutStep d q rest = .ok (p.1, more) by rw [e, ← h.2])
        simp only [List.length_cons]
        omega
    simp only [cutStep] at h
    split at h
    · exact onward h
    · split at h
      · exact onward h
      · split at h
        · exact onward h
        · split at h
          · split at h
            · cases h
            · exact onward h
          · split at h
            · cases h; simp
            · exact onward h

def textStep : List Char := ['t', 'e', 'x', 't', '(', ')']

-- A last step that stands for no element says what to take from the element before it.
def target? (step : List Char) : Option (Except Fault Target) :=
  if step = textStep then some (.ok .text)
  else match step with
    | '@' :: name => some ((attributeName name).map .attr)
    | _ => none

def axisOf : List Char → Axis × List Char
  | '/' :: rest => (.descendant, rest)
  | rest => (.child, rest)

theorem length_of_axisOf (cs : List Char) : (axisOf cs).2.length ≤ cs.length := by
  unfold axisOf
  split <;> simp

def readSteps (cs : List Char) : Except Fault (List Step × Target) :=
  match cs with
  | [] => .ok ([], .text)
  | '/' :: rest =>
    match h : cutStep 0 none (axisOf rest).2 with
    | .error e => .error e
    | .ok (step, more) =>
      match target? step with
      | some target =>
        if more ≠ [] then .error (.notLast (String.ofList step)) else target.map fun t => ([], t)
      | none => do
        let step ← readStep (axisOf rest).1 step
        have := length_of_cutStep h
        have := length_of_axisOf rest
        let (steps, target) ← readSteps more
        return (step :: steps, target)
  | _ => .error (.unexpected (String.ofList cs))
termination_by cs.length
decreasing_by simp only [List.length_cons]; omega

def read (cs : List Char) : Except Fault Path := do
  let cs := Text.trim cs
  if cs.head? ≠ some '/' then throw .notRooted
  let (steps, target) ← readSteps cs
  if steps = [] then throw .noElement
  return { steps, target }

end Stepwise.Path
