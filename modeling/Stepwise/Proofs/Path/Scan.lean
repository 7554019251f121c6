import Stepwise.Proofs.Path.Documented
import Stepwise.Proofs.Text.Slice

namespace Stepwise.Path

open Text (byteCount slice?)

section Place

-- The cuts of the reader as places in the bytes of a text. `place` is where the rest begins.

def stepEnd (depth : Nat) (quote : Option Char) (place : Nat) : List Char → Except Fault Nat
  | [] => if depth ≠ 0 ∨ quote.isSome then .error .unterminated else .ok place
  | c :: rest =>
    let onward (depth : Nat) (quote : Option Char) := stepEnd depth quote (place + c.utf8Size) rest
    match quote with
    | some q => onward depth (if c = q then none else some q)
    | none =>
      if isQuote c then onward depth (some c)
      else if c = '[' then onward (depth + 1) none
      else if c = ']' then
        match depth with
        | 0 => .error .unbalanced
        | d + 1 => onward d none
      else if c = '/' ∧ depth = 0 then .ok place
      else onward depth none

def conditionEnd? (quote : Option Char) (place : Nat) : List Char → Option Nat
  | [] => none
  | c :: rest =>
    let onward (quote : Option Char) := conditionEnd? quote (place + c.utf8Size) rest
    match quote with
    | some q => onward (if c = q then none else some q)
    | none =>
      if isQuote c then onward (some c) else if c = ']' then some place else onward none

-- The place of the bracket that closes the one at the start of a text.
def closingBracket? : List Char → Option Nat
  | [] => none
  | c :: rest => conditionEnd? none c.utf8Size rest

-- The place of the first bracket of a step, or of its end.
def nameEnd : List Char → Nat
  | [] => 0
  | c :: rest => if c = '[' then 0 else c.utf8Size + nameEnd rest

theorem stepEnd_eq (depth : Nat) (quote : Option Char) (place : Nat) (cs : List Char) :
    stepEnd depth quote place cs =
      (cutStep depth quote cs).map fun p => place + byteCount p.1 := by
  induction cs generalizing depth quote place with
  | nil =>
    simp only [stepEnd, cutStep]
    split <;> rfl
  | cons c cs ih =>
    have onward (depth : Nat) (quote : Option Char) : stepEnd depth quote (place + c.utf8Size) cs =
        (cutStep depth quote cs >>= fun p => pure (c :: p.1, p.2)).map
          fun p => place + byteCount p.1 := by
      rw [ih]
      cases cutStep depth quote cs with
      | error e => rfl
      | ok p => exact congrArg Except.ok (Nat.add_assoc _ _ _)
    simp only [stepEnd, cutStep]
    split
    · exact onward _ _
    · split
      · exact onward _ _
      · split
        · exact onward _ _
        · split
          · split
            · rfl
            · exact onward _ _
          · split
            · rfl
            · exact onward _ _

-- The slash is the fourteenth character, and two bytes were taken for one of those before it.
example : stepEnd 0 none 0 "a[@x='é]'][2]/b".toList = .ok 14 := by rfl

theorem conditionEnd?_eq (quote : Option Char) (place : Nat) (cs : List Char) :
    conditionEnd? quote place cs =
      (cutCondition? quote cs).map fun p => place + byteCount p.1 := by
  induction cs generalizing quote place with
  | nil => rfl
  | cons c cs ih =>
    have onward (quote : Option Char) : conditionEnd? quote (place + c.utf8Size) cs =
        (cutCondition? quote cs >>= fun p => pure (c :: p.1, p.2)).map
          fun p => place + byteCount p.1 := by
      rw [ih]
      cases cutCondition? quote cs with
      | none => rfl
      | some p => exact congrArg some (Nat.add_assoc _ _ _)
    simp only [conditionEnd?, cutCondition?]
    split
    · exact onward _
    · split
      · exact onward _
      · split
        · rfl
        · exact onward _

theorem closingBracket?_eq (rest : List Char) : closingBracket? ('[' :: rest) =
    (cutCondition? none rest).map fun p => 1 + byteCount p.1 := conditionEnd?_eq none 1 rest

theorem nameEnd_eq (cs : List Char) : nameEnd cs = byteCount (cs.takeWhile (· ≠ '[')) := by
  induction cs with
  | nil => rfl
  | cons c cs ih =>
    by_cases hopen : c = '['
    · rw [nameEnd, if_pos hopen, List.takeWhile_cons_of_neg (by simp [hopen])]
      rfl
    · rw [nameEnd, if_neg hopen, List.takeWhile_cons_of_pos (by simp [hopen]), ih]
      rfl

end Place

section Slices

-- The slices that are taken at these places, each of them between two characters.

structure StepSlices (cs step more : List Char) : Prop where
  front : slice? cs 0 (byteCount step) = some step
  back : slice? cs (byteCount step) (byteCount cs) = some more
  name : slice? step 0 (nameEnd step) = some (step.takeWhile (· ≠ '['))
  conditions : slice? step (nameEnd step) (byteCount step) = some (step.dropWhile (· ≠ '['))

theorem stepSlices_append (step more : List Char) : StepSlices (step ++ more) step more where
  front := Text.slice?_front step more
  back := Text.slice?_back step more
  name := by
    have hslice := Text.slice?_front (step.takeWhile (· ≠ '[')) (step.dropWhile (· ≠ '['))
    rwa [List.takeWhile_append_dropWhile, ← nameEnd_eq] at hslice
  conditions := by
    have hslice := Text.slice?_back (step.takeWhile (· ≠ '[')) (step.dropWhile (· ≠ '['))
    rwa [List.takeWhile_append_dropWhile, ← nameEnd_eq] at hslice

structure ConditionSlices (cs inner more : List Char) : Prop where
  front : slice? cs 1 (1 + byteCount inner) = some inner
  back : slice? cs (1 + byteCount inner + 1) (byteCount cs) = some more

theorem conditionSlices_append (inner more : List Char) :
    ConditionSlices ('[' :: inner ++ ']' :: more) inner more where
  front := Text.slice?_append ['['] inner (']' :: more)
  back := by
    have hslice := Text.slice?_back ('[' :: inner ++ [']']) more
    rw [Text.byteCount_append, List.append_assoc] at hslice
    exact hslice

end Slices

end Stepwise.Path
