import Stepwise.Pattern.CharSet
import Stepwise.Pattern.Program

namespace Stepwise.Pattern

-- The characters on both sides of a place in a text.
structure Around where
  before : Option Char
  after : Option Char

def isWordChar (wide : Bool) (c : Char) : Bool :=
  if c.toNat < 0x80 then c.isAlphanum || c == '_' else wide && CharSet.wordChars.has c

def Look.holds (l : Look) (a : Around) : Bool :=
  let inWordBefore (wide : Bool) := a.before.any (isWordChar wide)
  let inWordAfter (wide : Bool) := a.after.any (isWordChar wide)
  match l with
  | start => a.before.isNone
  | finish => a.after.isNone
  | lineStart => a.before.isNone || a.before == some '\n'
  | lineEnd => a.after.isNone || a.after == some '\n'
  | returnStart =>
    a.before.isNone || a.before == some '\n' || (a.before == some '\r' && a.after != some '\n')
  | returnEnd =>
    a.after.isNone || a.after == some '\r' || (a.after == some '\n' && a.before != some '\r')
  | boundary wide => inWordBefore wide != inWordAfter wide
  | noBoundary wide => inWordBefore wide == inWordAfter wide
  | wordStart wide => !inWordBefore wide && inWordAfter wide
  | wordEnd wide => inWordBefore wide && !inWordAfter wide
  | wordStartHalf wide => !inWordBefore wide
  | wordEndHalf wide => !inWordAfter wide

-- A search that has come to an instruction, and the place where it began.
structure Thread where
  pc : Nat
  origin : Nat

-- Follow looks and forks until characters are needed. Of two searches that come to the same
-- instruction the preferred one goes on. `todo` and the result are in order of preference, the
-- result backwards.
def settle (prog : Program) (around : Around) :
    (fuel : Nat) → (seen : Array Bool) → (todo : List Thread) → (ready : List Thread) → List Thread
  | 0, _, _, ready => ready
  | _, _, [], ready => ready
  | fuel + 1, seen, t :: todo, ready =>
    if seen.getD t.pc true then settle prog around fuel seen todo ready
    else
      let seen := seen.setIfInBounds t.pc true
      match prog[t.pc]? with
      | some (.look l next) =>
        if l.holds around then settle prog around fuel seen ({ t with pc := next } :: todo) ready
        else settle prog around fuel seen todo ready
      | some (.fork first second) =>
        settle prog around fuel seen ({ t with pc := first } :: { t with pc := second } :: todo) ready
      | some _ => settle prog around fuel seen todo (t :: ready)
      | none => settle prog around fuel seen todo ready

-- Where the preferred finished search began, if one is finished, and the searches before it.
def finished (prog : Program) : List Thread → List Thread × Option Nat
  | [] => ([], none)
  | t :: rest =>
    match prog[t.pc]? with
    | some .done => ([], some t.origin)
    | _ =>
      let (before, found) := finished prog rest
      (t :: before, found)

def advance (prog : Program) (c : Char) (threads : List Thread) : List Thread :=
  threads.filterMap fun t =>
    match prog[t.pc]? with
    | some (Instruction.char set next) => if set.has c then some { t with pc := next } else none
    | _ => none

-- What is known at a place: the searches that go on, and the ends of the best match so far.
structure Progress where
  going : List Thread
  found : Option (Nat × Nat)

-- Settle the searches at place `i`. One more begins here unless there is a match already, which
-- would be better.
def settleAt (entry : Nat) (prog : Program) (i : Nat) (around : Around) (p : Progress) : Progress :=
  let todo := if p.found.isNone then p.going ++ [⟨entry, i⟩] else p.going
  let fuel := 3 * prog.size + todo.length + 1
  let ready := (settle prog around fuel (Array.replicate prog.size false) todo []).reverse
  let (going, origin) := finished prog ready
  ⟨going, (origin.map (·, i)).or p.found⟩

def searchFrom (entry : Nat) (prog : Program) (i : Nat) (before : Option Char) (p : Progress) :
    List Char → Option (Nat × Nat)
  | [] => (settleAt entry prog i ⟨before, none⟩ p).found
  | c :: rest =>
    let p := settleAt entry prog i ⟨before, some c⟩ p
    if p.going.isEmpty && p.found.isSome then p.found
    else searchFrom entry prog (i + 1) (some c) { p with going := advance prog c p.going } rest

-- The leftmost match, and of those the preferred one.
def find? (p : Pattern) (text : List Char) : Option (List Char) :=
  let (entry, prog) := p.program
  (searchFrom entry prog 0 none ⟨[], none⟩ text).map fun (first, last) =>
    (text.drop first).take (last - first)

end Stepwise.Pattern
