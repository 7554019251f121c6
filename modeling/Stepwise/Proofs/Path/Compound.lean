import Stepwise.Proofs.Path.Documented
import Stepwise.Proofs.Path.Selection

namespace Stepwise.Path

open Markup (Scope Place Space)

variable {space : Space} {o t : Scope} {p : Place} {condition : Condition}
  {conditions : List Condition} {s : Step} {steps : List Step} {path : Path}
  {ls : List Literal} {text : List Char}

section Accepted

-- What the steps of an accepted path hold: proper names, and positions that start at one and fit in a
-- machine word.

def Condition.Proper : Condition → Prop
  | position n => 1 ≤ n ∧ n < 0x10000000000000000
  | present a | equal a _ | part a _ => isName a.toList = true

structure Step.Proper (s : Step) : Prop where
  test : s.test.Proper
  conditions : ∀ c ∈ s.conditions, c.Proper

theorem Condition.Worded.proper (h : condition.Worded ls text) : condition.Proper := by
  cases h with
  | position _ _ _ _ hlow hhigh => exact ⟨hlow, hhigh⟩
  | present ha _ => exact ha
  | equal ha _ _ _ => exact ha
  | part ha _ _ _ _ => exact ha

theorem Conditions.Worded.proper (h : Worded conditions ls text) : ∀ c ∈ conditions, c.Proper := by
  induction h with
  | nil => simp
  | cons _ _ hinner _ ih => exact List.forall_mem_cons.2 ⟨hinner.proper, ih⟩

theorem Steps.Worded.proper {ending : Ending} (h : Worded ending steps ls text) :
    ∀ s ∈ steps, s.Proper := by
  induction h with
  | ending _ => simp
  | step hbody _ ih =>
    obtain ⟨htest, htext⟩ := hbody
    exact List.forall_mem_cons.2 ⟨⟨htest, htext.proper⟩, ih⟩

theorem proper_of_read (h : read text = .ok path) : ∀ s ∈ path.steps, s.Proper := by
  obtain ⟨ls, hworded, -⟩ := worded_of_read h
  obtain @⟨ending, front, body, back, -, -, -, -, hbody⟩ := hworded
  exact hbody.proper

theorem ne_nil_of_read (h : read text = .ok path) : path.steps ≠ [] := by
  obtain ⟨ls, hworded, -⟩ := worded_of_read h
  obtain @⟨ending, front, body, back, -, -, hne, -, -⟩ := hworded
  exact hne

theorem read_written (hne : steps ≠ []) (hsteps : ∀ s ∈ steps, s.Grammatical)
    (hwritten : steps.flatMap Step.written = text) : read text = .ok ⟨steps, .text⟩ := by
  have hending : Ending.element.Proper := trivial
  have htext := spelled_written hsteps hending
  rw [Ending.written, List.append_nil, hwritten] at htext
  exact htext.read_eq hne

end Accepted

section Legible

-- What a path holds and a selector reads as something else: a colon in a name, which begins a
-- pseudo-class, and characters that end a text between quotes or are replaced in it.

def NameTest.Legible : NameTest → Prop
  | any => True
  | name n => ':' ∉ n.toList

def Condition.Legible : Condition → Prop
  | position _ => True
  | present a => ':' ∉ a.toList
  | equal a v | part a v => ':' ∉ a.toList ∧ Unbroken v

instance (test : NameTest) : Decidable test.Legible :=
  match test with
  | .any => inferInstanceAs (Decidable True)
  | .name n => inferInstanceAs (Decidable (':' ∉ n.toList))

instance (condition : Condition) : Decidable condition.Legible :=
  match condition with
  | .position _ => inferInstanceAs (Decidable True)
  | .present a => inferInstanceAs (Decidable (':' ∉ a.toList))
  | .equal a v | .part a v => inferInstanceAs (Decidable (':' ∉ a.toList ∧ Unbroken v))

structure Step.Legible (s : Step) : Prop where
  test : s.test.Legible
  conditions : ∀ c ∈ s.conditions, c.Legible

instance (s : Step) : Decidable s.Legible :=
  decidable_of_iff (s.test.Legible ∧ ∀ c ∈ s.conditions, c.Legible)
    ⟨fun h => ⟨h.1, h.2⟩, fun h => ⟨h.test, h.conditions⟩⟩

theorem NameTest.Proper.readable {test : NameTest} (h : test.Proper) (hlegible : test.Legible) :
    test.Readable := by
  cases test with
  | any => exact trivial
  | name n => exact ⟨h, hlegible⟩

theorem Step.Proper.readable (h : s.Proper) (hlegible : s.Legible) : s.Readable where
  test := h.test.readable hlegible.test
  conditions c hc := by
    have hcondition := h.conditions c hc
    have hword := hlegible.conditions c hc
    cases c with
    | position n => exact trivial
    | present a => exact ⟨hcondition, hword⟩
    | equal a v => exact ⟨⟨hcondition, hword.1⟩, hword.2⟩
    | part a v => exact ⟨⟨hcondition, hword.1⟩, hword.2⟩

end Legible

section Matches

-- The elements that the compiled compound of a step matches.
def Step.Matches (s : Step) (p : Place) : Prop :=
  ∃ compound, Selector.read? s.compoundText = some compound ∧ compound.selects p = true

instance (s : Step) (p : Place) : Decidable (s.Matches p) :=
  decidable_of_iff ((Selector.read? s.compoundText).any (fun compound => compound.selects p) = true)
    (by rw [Option.any_eq_true]; rfl)

theorem Step.Readable.matches_iff (h : s.Readable) :
    s.Matches p ↔ ∀ part ∈ s.parts, part.holds none p = true := by
  rw [Matches, h.read?_eq, ← Selector.allHold_iff]
  simp only [Option.some.injEq, exists_eq_left', selects_singleton, Selector.Complex.holds]

-- Of the elements right in a node, a step keeps those that its compiled compound matches.
theorem Step.Clear.mem_kept_iff_matches (h : s.Clear) (hreadable : s.Readable) (ho : o.IsTree space)
    (hp : p ∈ o.elements) (hcase : space = .html → ∀ c ∈ s.conditions, c.Cased) :
    p ∈ s.kept o ↔ s.Matches p := by
  rw [h.mem_kept ho, and_iff_right hp, hreadable.matches_iff]
  exact Step.forall_exact_iff (fun c hc => .inl (h.conditions c hc)) (ho.element hp).1 hcase

theorem mem_evaluate_iff_matches (ho : o.IsTree space) (hsteps : ∀ s ∈ steps, s.Plain)
    (hcase : space = .html → ∀ s ∈ steps, ∀ c ∈ s.conditions, c.Cased) :
    t ∈ evaluate steps o ↔ Reaches Step.Matches steps o t := by
  rw [mem_evaluate_iff ho hsteps]
  refine Reaches.congr ho fun s hs q hspace => ?_
  rw [(hsteps s hs).readable.matches_iff]
  exact Step.forall_exact_iff (hsteps s hs).clear_of_mem hspace fun hhtml => hcase hhtml s hs

end Matches

end Stepwise.Path
