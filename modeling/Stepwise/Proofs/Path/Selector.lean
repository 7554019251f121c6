import Stepwise.Proofs.Except
import Stepwise.Proofs.Path.Words
import Stepwise.Proofs.Selector.Value
import Stepwise.Selector.Reader

namespace Stepwise

namespace Selector

variable {inner : Inner} {hasAllowed : Bool} {vs rest : List Value} {s : Simple}
  {more : List Simple}

theorem readSimples_some (h : readSimple inner hasAllowed vs = .ok (some s, rest)) :
    readSimples inner hasAllowed vs =
      (readSimples inner hasAllowed rest).map fun p => (s :: p.1, p.2) := by
  rw [readSimples]
  split
  · next e => rw [h] at e; cases e
  · next e => rw [h] at e; cases e
  · next e =>
    rw [h] at e
    cases e
    rcases readSimples inner hasAllowed rest with - | p <;> rfl

theorem readSimples_error (h : readSimple inner hasAllowed vs = .error rest) :
    readSimples inner hasAllowed vs = .error rest := by
  rw [readSimples]
  split
  · next e => rw [h] at e; cases e; rfl
  · next e => rw [h] at e; cases e
  · next e => rw [h] at e; cases e

theorem readSimples_none (h : readSimple inner hasAllowed vs = .ok (none, rest)) :
    readSimples inner hasAllowed vs = .ok ([], rest) := by
  rw [readSimples]
  split
  · next e => rw [h] at e; cases e
  · next e => rw [h] at e; cases e; rfl
  · next e => rw [h] at e; cases e

theorem splitAtCommas_ne_nil (vs : List Value) : splitAtCommas vs ≠ [] := by
  cases vs with
  | nil => simp [splitAtCommas]
  | cons v vs =>
    rw [splitAtCommas]
    split
    · simp
    · split <;> simp

theorem splitAtCommas_append (h : ∀ v ∈ vs, v.isComma = false) (rest : List Value) :
    ∃ part parts, splitAtCommas (vs ++ rest) = (vs ++ part) :: parts := by
  induction vs with
  | nil =>
    rw [List.nil_append]
    rcases hparts : splitAtCommas rest with - | ⟨part, parts⟩
    · exact absurd hparts (splitAtCommas_ne_nil rest)
    · exact ⟨part, parts, rfl⟩
  | cons v vs ih =>
    rw [List.forall_mem_cons] at h
    obtain ⟨part, parts, hparts⟩ := ih h.2
    exact ⟨part, parts, by simp [splitAtCommas, h.1, hparts]⟩

theorem splitAtCommas_of_forall (h : ∀ v ∈ vs, v.isComma = false) : splitAtCommas vs = [vs] := by
  induction vs with
  | nil => rfl
  | cons v vs ih =>
    rw [List.forall_mem_cons] at h
    simp [splitAtCommas, h.1, ih h.2]

end Selector

namespace Path

open Selector (Token Value Simple Combinator CaseRule Inner)

variable {condition : Condition} {conditions : List Condition} {nameTest : NameTest} {s : Step}
  {steps : List Step} {rest : List Value} {a : String} {inner : Inner} {hasAllowed : Bool}

-- The words of a path's selector with their brackets matched.

def Condition.values : Condition → List Value
  | position n =>
    [.token .colon, .block (.function "nth-of-type")
      [.token (.number false (some (Token.counted n : Nat)))]]
  | present a => [.block .square [.token (.ident a)]]
  | equal a v => [.block .square [.token (.ident a), .token (.delim '='), .token (.string v)]]
  | part a v => [.block .square [.token (.ident a), .token (.operator .part), .token (.string v)]]

def Step.values (s : Step) : List Value :=
  .token s.test.word :: s.conditions.flatMap Condition.values

def Axis.values (axis : Axis) : List Value := axis.words.map .token

def laterValues (steps : List Step) : List Value :=
  steps.flatMap fun s => s.axis.values ++ s.values

theorem laterValues_cons (s : Step) (steps : List Step) :
    laterValues (s :: steps) = s.axis.values ++ (s.values ++ laterValues steps) := by
  rw [laterValues, List.flatMap_cons, List.append_assoc]
  rfl

theorem folds_plain (ts : List Token) (h : ∀ t ∈ ts, (∀ o, t ≠ .opener o) ∧ ∀ c, t ≠ .closer c) :
    Value.Folds ts (ts.map .token) := by
  induction ts with
  | nil => exact .nil
  | cons t ts ih =>
    rw [List.forall_mem_cons] at h
    exact (Value.Folds.plain h.1.1 h.1.2).append (ih h.2)

theorem Condition.folds (condition : Condition) : Value.Folds condition.words condition.values := by
  cases condition with
  | position n =>
    have hcolon : Value.Folds [.colon] [.token .colon] := .plain (by simp) (by simp)
    have hnumber (z : Int) : Value.Folds [.number false (some z)] [.token (.number false (some z))] :=
      .plain (by simp) (by simp)
    exact hcolon.append ((hnumber _).block _)
  | present a => exact (folds_plain [.ident a] (by simp)).block .square
  | equal a v =>
    exact (folds_plain [.ident a, .delim '=', .string v] (by simp)).block .square
  | part a v =>
    exact (folds_plain [.ident a, .operator .part, .string v] (by simp)).block .square

theorem Step.folds (s : Step) : Value.Folds s.words s.values := by
  have hword : Value.Folds [s.test.word] [.token s.test.word] := by
    cases s.test <;> exact .plain (by simp [NameTest.word]) (by simp [NameTest.word])
  have hconditions (conditions : List Condition) :
      Value.Folds (conditions.flatMap Condition.words) (conditions.flatMap Condition.values) := by
    induction conditions with
    | nil => exact .nil
    | cons c conditions ih => exact c.folds.append ih
  exact hword.append (hconditions s.conditions)

theorem Axis.folds (axis : Axis) : Value.Folds axis.words axis.values := by
  cases axis <;> exact folds_plain _ (by simp [words])

theorem folds_steps (steps : List Step) : Value.Folds (laterWords steps) (laterValues steps) := by
  induction steps with
  | nil => exact .nil
  | cons s steps ih =>
    exact (s.axis.folds.append s.folds).append ih

-- What the selector of a path asks for.

def NameTest.simple : NameTest → Simple
  | any => .universal
  | name n => .name n

def valueRule (a : String) : CaseRule :=
  if Selector.caselessAttributes.contains (String.ofList (Selector.lower a)) then .byElement
  else .counts

def Condition.simple : Condition → Simple
  | position n => .nth true false ⟨0, Token.counted n⟩
  | present a => .attr false a none
  | equal a v => .attr false a (some ⟨.equal, v, valueRule a⟩)
  | part a v => .attr false a (some ⟨.part, v, valueRule a⟩)

def Step.parts (s : Step) : List Simple := s.test.simple :: s.conditions.map Condition.simple

def Axis.combinator : Axis → Combinator
  | child => .child
  | descendant => .descendant

def chain (left : Selector.Complex) (steps : List Step) : Selector.Complex :=
  steps.foldl (fun left s => .joined left s.axis.combinator s.parts) left

theorem Condition.readSimple_eq (condition : Condition) (rest : List Value) :
    Selector.readSimple inner hasAllowed (condition.values ++ rest) =
      .ok (some condition.simple, rest) := by
  cases condition with
  | position n => rfl
  | present a => rfl
  | equal a v => rfl
  | part a v => rfl

-- What follows the conditions on one element.
def Ends (rest : List Value) : Prop := rest = [] ∨ ∃ more, rest = .token .space :: more

theorem readSimples_conditions (conditions : List Condition) (rest : List Value) :
    Selector.readSimples inner hasAllowed (conditions.flatMap Condition.values ++ rest) =
      (Selector.readSimples inner hasAllowed rest).map
        fun p => (conditions.map Condition.simple ++ p.1, p.2) := by
  induction conditions with
  | nil => rcases h : Selector.readSimples inner hasAllowed rest <;> simp [h, Except.map]
  | cons c conditions ih =>
    rw [List.flatMap_cons, List.append_assoc,
      Selector.readSimples_some (c.readSimple_eq _), ih]
    rcases Selector.readSimples inner hasAllowed rest <;> rfl

theorem readSimples_ends (hrest : Ends rest) :
    Selector.readSimples inner hasAllowed rest = .ok ([], rest) := by
  refine Selector.readSimples_none ?_
  rcases hrest with rfl | ⟨more, rfl⟩ <;> rfl

-- A bar behind a name would make it a prefix.
theorem Step.readName_eq (hrest : ∀ more, rest ≠ .token (.delim '|') :: more) (s : Step) :
    Selector.readName (s.values ++ rest) =
      .ok ([s.test.simple], s.conditions.flatMap Condition.values ++ rest) := by
  have hbar (more : List Value) :
      s.conditions.flatMap Condition.values ++ rest ≠ .token (.delim '|') :: more := by
    cases s.conditions with
    | nil => exact hrest more
    | cons c conditions => cases c <;> simp [Condition.values]
  rw [values, List.cons_append]
  generalize s.conditions.flatMap Condition.values ++ rest = next at hbar
  cases s.test with
  | any =>
    change Selector.readName (.token (.delim '*') :: next) = .ok ([.universal], next)
    unfold Selector.readName
    split
    all_goals grind
  | name n =>
    change Selector.readName (.token (.ident n) :: next) = .ok ([.name n], next)
    unfold Selector.readName
    split
    all_goals grind

theorem Step.skipSpaces_eq (s : Step) (rest : List Value) :
    Selector.skipSpaces (s.values ++ rest) = s.values ++ rest := by
  rw [values]
  cases s.test <;> rfl

theorem Step.readCompound_append {vs : List Value} (hvs : Selector.skipSpaces vs = s.values ++ rest)
    (hrest : ∀ more, rest ≠ .token (.delim '|') :: more) :
    Selector.readCompound inner hasAllowed vs =
      (Selector.readSimples inner hasAllowed rest).map fun p => (s.parts ++ p.1, p.2) := by
  have hname : Selector.readName (Selector.skipSpaces vs) =
      .ok ([s.test.simple], s.conditions.flatMap Condition.values ++ rest) := by
    rw [hvs, s.readName_eq hrest]
  rw [Selector.readCompound, hname]
  change (Selector.readSimples inner hasAllowed _ >>= _) = _
  rw [readSimples_conditions]
  rcases Selector.readSimples inner hasAllowed rest <;> rfl

theorem Step.readCompound_eq {vs : List Value} (hvs : Selector.skipSpaces vs = s.values ++ rest)
    (hrest : Ends rest) : Selector.readCompound inner hasAllowed vs = .ok (s.parts, rest) := by
  have hbar (more : List Value) : rest ≠ .token (.delim '|') :: more := by
    rcases hrest with rfl | ⟨more, rfl⟩ <;> simp
  rw [readCompound_append hvs hbar, readSimples_ends hrest, Except.map, List.append_nil]

theorem readCombinator_axis (axis : Axis) (s : Step) (rest : List Value) :
    ∃ more, Selector.readCombinator false (axis.values ++ (s.values ++ rest)) =
      some (axis.combinator, more) ∧ Selector.skipSpaces more = s.values ++ rest := by
  cases axis with
  | child => exact ⟨.token .space :: (s.values ++ rest), rfl, s.skipSpaces_eq rest⟩
  | descendant =>
    refine ⟨s.values ++ rest, ?_, s.skipSpaces_eq rest⟩
    rw [Step.values]
    cases s.test <;> rfl

theorem ends_axis (axis : Axis) (rest : List Value) : Ends (axis.values ++ rest) := by
  cases axis with
  | child => exact .inr ⟨_, rfl⟩
  | descendant => exact .inr ⟨_, rfl⟩

theorem ends_steps (steps : List Step) (hrest : Ends rest) : Ends (laterValues steps ++ rest) := by
  cases steps with
  | nil => exact hrest
  | cons s steps =>
    rw [laterValues_cons, List.append_assoc]
    exact ends_axis s.axis _

-- The steps of a chain are read whatever follows them.
theorem readChain_steps {fuel : Nat} (left : Selector.Complex) (hrest : Ends rest) :
    Selector.readChain inner hasAllowed (steps.length + fuel) left (laterValues steps ++ rest) =
      Selector.readChain inner hasAllowed fuel (chain left steps) rest := by
  induction steps generalizing left with
  | nil => rw [List.length_nil, Nat.zero_add]; rfl
  | cons s steps ih =>
    obtain ⟨more, hcombinator, hmore⟩ := readCombinator_axis s.axis s (laterValues steps ++ rest)
    have hcompound : Selector.readCompound inner hasAllowed more =
        .ok (s.parts, laterValues steps ++ rest) :=
      Step.readCompound_eq hmore (ends_steps steps hrest)
    rw [List.length_cons, Nat.add_right_comm, laterValues_cons, List.append_assoc,
      List.append_assoc, Selector.readChain, hcombinator]
    exact (congrArg (· >>= _) hcompound).trans (ih _)

theorem length_laterValues (steps : List Step) : steps.length ≤ (laterValues steps).length := by
  induction steps with
  | nil => exact Nat.le_refl _
  | cons s steps ih =>
    rw [laterValues_cons, List.length_append, List.length_append, List.length_cons, Step.values,
      List.length_cons]
    omega

theorem readComplex_steps (first : Step) (steps : List Step) :
    Selector.readComplex inner Selector.topMode (first.values ++ laterValues steps) =
      .ok (chain (.compound first.parts) steps) := by
  obtain ⟨fuel, hfuel⟩ := Nat.exists_eq_add_of_le (length_laterValues steps)
  have hskip := first.skipSpaces_eq (laterValues steps)
  have hends : Ends (laterValues steps) := by
    simpa using ends_steps steps (.inl rfl)
  have hchain : Selector.readChain inner true (laterValues steps).length (.compound first.parts)
      (laterValues steps) = .ok (chain (.compound first.parts) steps, []) := by
    have hsteps : Selector.readChain inner true (steps.length + fuel) (.compound first.parts)
        (laterValues steps ++ []) =
          Selector.readChain inner true fuel (chain (.compound first.parts) steps) [] :=
      readChain_steps _ (.inl rfl)
    rw [List.append_nil, ← hfuel] at hsteps
    rw [hsteps]
    cases fuel <;> rfl
  simp only [Selector.readComplex, Selector.topMode, hskip, Bool.false_eq_true, if_false]
  refine bind_eq_ok_iff.2 ⟨_, Step.readCompound_eq hskip hends, ?_⟩
  refine bind_eq_ok_iff.2 ⟨_, rfl, ?_⟩
  refine bind_eq_ok_iff.2 ⟨_, hchain, ?_⟩
  rfl

theorem isComma_values (s : Step) : ∀ v ∈ s.values, v.isComma = false := by
  rw [Step.values, List.forall_mem_cons]
  refine ⟨by cases s.test <;> rfl, fun v hv => ?_⟩
  obtain ⟨c, -, hv⟩ := List.mem_flatMap.1 hv
  cases c <;> simp only [Condition.values, List.mem_cons, List.not_mem_nil, or_false] at hv
  all_goals grind [Value.isComma]

theorem isComma_axis (axis : Axis) : ∀ v ∈ axis.values, v.isComma = false := by
  cases axis <;> simp [Axis.values, Axis.words, Value.isComma]

theorem isComma_steps (steps : List Step) : ∀ v ∈ laterValues steps, v.isComma = false := by
  intro v hv
  obtain ⟨s, -, hv⟩ := List.mem_flatMap.1 hv
  rcases List.mem_append.1 hv with hv | hv
  · exact isComma_axis s.axis v hv
  · exact isComma_values s v hv

theorem selectorText_eq {first : Step} {p : Path} (hsteps : p.steps = first :: steps) :
    p.selectorText = first.compoundText ++ laterText steps := by
  rw [selectorText, hsteps]
  rfl

-- The selector of a path is read as the chain of its steps.
theorem read?_whole {first : Step} {p : Path} (hsteps : p.steps = first :: steps)
    (h : ∀ s ∈ p.steps, s.Whole) : Selector.read? p.selectorText =
      some ⟨[chain (.compound first.shown.parts) (steps.map Step.shown)]⟩ := by
  rw [hsteps, List.forall_mem_cons] at h
  have hend : ∀ c ∈ ([] : List Char).head?, c = ' ' := by simp
  have hlater := all_steps h.2 hend
  have hfirst := h.1.all_eq (head_laterText steps)
  rw [List.append_nil, Token.all, List.append_nil] at hlater
  rw [hlater, ← selectorText_eq hsteps] at hfirst
  have hvalues : Value.ofTokens (Token.all p.selectorText) =
      first.shown.values ++ laterValues (steps.map Step.shown) := by
    rw [hfirst]
    exact (first.shown.folds.append (folds_steps _)).ofTokens_eq
  have hcommas := Selector.splitAtCommas_of_forall (List.forall_mem_append.2
    ⟨isComma_values first.shown, isComma_steps (steps.map Step.shown)⟩)
  rw [Selector.read?, hvalues, Selector.readList, hcommas, List.mapM_cons, readComplex_steps]
  rfl

theorem read?_selectorText {first : Step} {p : Path} (hsteps : p.steps = first :: steps)
    (h : ∀ s ∈ p.steps, s.Readable) :
    Selector.read? p.selectorText = some ⟨[chain (.compound first.parts) steps]⟩ := by
  have hread := read?_whole hsteps fun s hs => (h s hs).whole
  rw [hsteps, List.forall_mem_cons] at h
  have hshown : steps.map Step.shown = steps :=
    (List.map_congr_left fun s hs => (h.2 s hs).shown_eq).trans (List.map_id _)
  rwa [h.1.shown_eq, hshown] at hread

-- So is the selector of a single step, and a name alone.
theorem Step.Readable.read?_eq (h : s.Readable) :
    Selector.read? s.compoundText = some ⟨[.compound s.parts]⟩ := by
  have htext : selectorText ⟨[s], .text⟩ = s.compoundText := by simp [selectorText]
  have hread := read?_selectorText (p := ⟨[s], .text⟩) rfl (List.forall_mem_singleton.2 h)
  rwa [htext] at hread

theorem read?_name (h : WordName a) : Selector.read? a.toList = some ⟨[.compound [.name a]]⟩ := by
  have hreadable : Step.Readable ⟨.descendant, .name a, []⟩ := ⟨h, by simp⟩
  have htext : Step.compoundText ⟨.descendant, .name a, []⟩ = a.toList := by
    simp [Step.compoundText, NameTest.selectorText]
  have hread := hreadable.read?_eq
  rwa [htext] at hread

end Path

end Stepwise
