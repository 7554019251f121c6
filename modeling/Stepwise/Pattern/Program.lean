import Stepwise.Pattern.Basic

namespace Stepwise.Pattern

-- One step of a search. A fork prefers its first branch.
inductive Instruction
  | char (set : Text.Ranges) (next : Nat)
  | look (l : Look) (next : Nat)
  | fork (first second : Nat)
  | done

abbrev Program := Array Instruction

namespace Program

def emit (prog : Program) (i : Instruction) : Nat × Program := (prog.size, prog.push i)

-- A fork that prefers to go on if it is greedy.
def branch (greedy : Bool) (onward out : Nat) : Instruction :=
  if greedy then .fork onward out else .fork out onward

-- Put `count` copies one before the other.
def copies (copy : Nat → Program → Nat × Program) : (count : Nat) → Nat → Program → Nat × Program
  | 0, next, prog => (next, prog)
  | count + 1, next, prog =>
    let (entry, prog) := copy next prog
    copies copy count entry prog

-- At least one copy. The fork behind it leads back to it.
def oneOrMore (copy : Nat → Program → Nat × Program) (greedy : Bool) (next : Nat) (prog : Program) :
    Nat × Program :=
  let (back, prog) := emit prog .done
  let (entry, prog) := copy back prog
  (entry, prog.setIfInBounds back (branch greedy entry next))

-- The instructions for a pattern in front of those at `next`, and where they begin.
def compile (p : Pattern) (next : Nat) (prog : Program) : Nat × Program :=
  match p with
  | .empty => (next, prog)
  | .char set => emit prog (.char set next)
  | .look l => emit prog (.look l next)
  | .seq a b =>
    let (entry, prog) := compile b next prog
    compile a entry prog
  | .alt a b =>
    let (second, prog) := compile b next prog
    let (first, prog) := compile a next prog
    emit prog (.fork first second)
  | .times p least most greedy =>
    match most with
    | none =>
      if least = 0 then
        if p.canBeEmpty then
          -- entering and going on are told apart, so that an empty round does not come first
          let (entry, prog) := oneOrMore (compile p) greedy next prog
          emit prog (branch greedy entry next)
        else
          let (back, prog) := emit prog .done
          let (entry, prog) := compile p back prog
          (back, prog.setIfInBounds back (branch greedy entry next))
      else
        let (entry, prog) := oneOrMore (compile p) greedy next prog
        copies (compile p) (least - 1) entry prog
    | some most =>
      let optional (entry : Nat) (prog : Program) : Nat × Program :=
        let (onward, prog) := compile p entry prog
        emit prog (branch greedy onward next)
      let (entry, prog) := copies optional (most - least) next prog
      copies (compile p) least entry prog

end Program

-- Where a search begins, and all its steps.
def program (p : Pattern) : Nat × Program := Program.compile p 0 #[.done]

end Stepwise.Pattern
