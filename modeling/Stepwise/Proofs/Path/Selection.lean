import Mathlib.Data.List.Find
import Stepwise.Proofs.Path.Matching

namespace Stepwise.Path

open Markup (Scope Place Document Space Node)
open Selector (Simple)

variable {space : Space} {p : Place} {ps : List Place} {a : String} {first s : Step}
  {steps : List Step} {ns : List Node} {text : List Char}

-- A path that may begin anywhere in a page, in steps that a selector can say.
structure Unanchored (steps : List Step) : Prop where
  anywhere : ∃ first rest, steps = first :: rest ∧ first.axis = .descendant
  plain : ∀ s ∈ steps, s.Plain

-- The first element with a property, where the elements stand in document order.
def IsFirst (ps : List Place) (P : Place → Prop) (p : Place) : Prop :=
  ∃ before after, ps = before ++ p :: after ∧ P p ∧ ∀ q ∈ before, ¬ P q

theorem isFirst_iff_find? {P : Place → Prop} {f : Place → Bool}
    (h : ∀ q ∈ ps, P q ↔ f q = true) : IsFirst ps P p ↔ ps.find? f = some p := by
  rw [List.find?_eq_some_iff_append]
  constructor
  · rintro ⟨before, after, rfl, hp, hbefore⟩
    refine ⟨(h p (by simp)).1 hp, before, after, rfl, fun q hq => ?_⟩
    simpa [h q (by simp [hq])] using hbefore q hq
  · rintro ⟨hp, before, after, rfl, hbefore⟩
    refine ⟨before, after, rfl, (h p (by simp)).2 hp, fun q hq => ?_⟩
    simpa [h q (by simp [hq])] using hbefore q hq

section Case

-- A condition that compares no value whose case html leaves open.
def Condition.Cased : Condition → Prop
  | equal a _ | part a _ => a ∉ Selector.caselessAttributes
  | _ => True

theorem valueRule_cases (h : PlainName a) (hcase : space = .html → a ∉ Selector.caselessAttributes) :
    valueRule a = .counts ∨ valueRule a = .byElement ∧ space ≠ .html := by
  have hlower : String.ofList (Selector.lower a) = a := by
    rw [Selector.lower, h.lower, String.ofList_toList]
  rw [valueRule, hlower]
  by_cases hmem : a ∈ Selector.caselessAttributes
  · exact .inr ⟨by simp [hmem], fun hspace => hcase hspace hmem⟩
  · exact .inl (by simp [hmem])

theorem Step.forall_exact_iff (hclear : ∀ c ∈ s.conditions, c.Clear ∨ ∃ n, c = .position n)
    (hspace : p.tag.space = space) (hcase : space = .html → ∀ c ∈ s.conditions, c.Cased) :
    (∀ part ∈ s.parts, part.exact.holds none p = true) ↔
      ∀ part ∈ s.parts, part.holds none p = true := by
  refine forall₂_congr fun part hpart => ?_
  rw [Selector.holds_exact fun anySpace a test heq => ?_]
  rw [hspace]
  subst heq
  rcases List.mem_cons.1 hpart with htest | hpart
  · cases hname : s.test <;> rw [hname] at htest <;> cases htest
  · obtain ⟨c, hc, hcondition⟩ := List.mem_map.1 hpart
    rcases hclear c hc with hplain | ⟨n, rfl⟩
    · cases c with
      | position n => cases hcondition
      | present b => cases hcondition
      | equal b v =>
        cases hcondition
        exact valueRule_cases hplain fun hhtml => hcase hhtml _ hc
      | part b v =>
        cases hcondition
        exact valueRule_cases hplain.1 fun hhtml => hcase hhtml _ hc
    · cases hcondition

theorem holds_chain_exact (hns : (Scope.page ns).IsTree space) (haxis : first.axis = .descendant)
    (hsteps : ∀ s ∈ first :: steps, s.Plain)
    (hcase : space = .html → ∀ s ∈ first :: steps, ∀ c ∈ s.conditions, c.Cased)
    (hp : (Scope.page ns).Holds p) :
    (chain (.compound first.parts) steps).exact.holds none p =
      (chain (.compound first.parts) steps).holds none p := by
  have hsame := Reaches.congr (t := .element p) hns fun s hs q hspace =>
    Step.forall_exact_iff (hsteps s hs).clear_of_mem hspace fun hhtml => hcase hhtml s hs
  rw [reaches_exact_iff hns haxis, reaches_holds_iff hns haxis, and_iff_right hp,
    and_iff_right hp] at hsame
  exact Bool.eq_iff_iff.2 hsame

end Case

theorem selects_singleton (c : Selector.Complex) (p : Place) :
    Selector.selects ⟨[c]⟩ p = c.holds none p := by
  simp [Selector.selects, Selector.anyHolds]

-- The first element that a path selects is the first one that its selector matches, if there is any.
-- A page compares values as the selector does, but for those whose case html leaves open.
theorem read_selects_same (hsteps : Unanchored steps) (htext : Spelled .element steps text) :
    ∃ path s, read text = .ok path ∧ Selector.read? path.selectorText = some s ∧
      ∀ (space : Space) (page : Document), page.IsTree space →
        (∀ p, IsFirst page.places (Selects page steps) p ↔
          page.places.find? s.exact.selects = some p) ∧
        ((∀ p, ¬ Selects page steps p) ↔ page.places.find? s.exact.selects = none) ∧
        ((space = .html → ∀ s ∈ steps, ∀ c ∈ s.conditions, c.Cased) →
          page.places.find? s.selects = page.places.find? s.exact.selects) := by
  obtain ⟨first, rest, rfl, haxis⟩ := hsteps.anywhere
  have hread := htext.read_eq (List.cons_ne_nil first rest)
  have hselector := read?_selectorText (p := ⟨first :: rest, .text⟩) rfl
    fun s hs => (hsteps.plain s hs).readable
  refine ⟨_, _, hread, hselector, fun space page hpage => ?_⟩
  have hscope := hpage.scope_isTree
  have hplain := List.forall_mem_cons.1 hsteps.plain
  have hselects (p : Place) : Selects page (first :: rest) p ↔ p ∈ page.places ∧
      (Selector.exact ⟨[chain (.compound first.parts) rest]⟩).selects p = true := by
    rw [hpage.mem_places_iff]
    exact (mem_evaluate_iff hscope hsteps.plain).trans ((reaches_exact_iff hscope haxis).trans
      (and_congr_right fun _ => by rw [← selects_singleton]; rfl))
  refine ⟨fun p => isFirst_iff_find? fun q hq => ?_, ?_, fun hcase => ?_⟩
  · rw [hselects]
    exact and_iff_right hq
  · rw [List.find?_eq_none]
    simp only [hselects, not_and]
  · refine List.find?_congr fun p hp => ?_
    rw [hpage.mem_places_iff] at hp
    have hsame := holds_chain_exact hscope haxis hsteps.plain hcase hp
    rw [← selects_singleton, ← selects_singleton] at hsame
    exact hsame.symm

def secondParagraph : List Step :=
  [⟨.descendant, .name "div", [.equal "class" "a b"]⟩, ⟨.descendant, .name "p", [.position 2]⟩,
   ⟨.child, .any, [.part "href" "/]\""]⟩]

-- Two paragraphs in a block, with a link in the second one.
def paragraphPage : Document where
  children :=
    [.element ⟨1, .html, "div", [{ name := "class", value := "a b" }]⟩
      [.element ⟨2, .html, "p", []⟩ [.text "first"], .text " ",
       .element ⟨3, .html, "p", []⟩
        [.element ⟨4, .html, "a", [{ name := "href", value := "x/]\"y" }]⟩ []]]]
  loose := []

theorem read_selects_same_secondParagraph :
    Unanchored secondParagraph ∧
      Spelled .element secondParagraph "//div[@class='a b']//p[2]/*[contains(@href,'/]\"')]".toList ∧
      paragraphPage.IsTree .html ∧ (∃ p, p.tag.stamp = 4 ∧ Selects paragraphPage secondParagraph p) ∧
      ∃ path s, read "//div[@class='a b']//p[2]/*[contains(@href,'/]\"')]".toList = .ok path ∧
        Selector.read? path.selectorText = some s ∧
        ∀ p, IsFirst paragraphPage.places (Selects paragraphPage secondParagraph) p ↔
          paragraphPage.places.find? s.exact.selects = some p := by
  have hname : PlainName "div" ∧ PlainName "class" ∧ PlainName "p" ∧ PlainName "href" :=
    ⟨⟨by decide, by decide, by decide⟩, ⟨by decide, by decide, by decide⟩,
      ⟨by decide, by decide, by decide⟩, ⟨by decide, by decide, by decide⟩⟩
  obtain ⟨hdiv, hclass, hp, hhref⟩ := hname
  have hsteps : Unanchored secondParagraph := by
    refine ⟨⟨_, _, rfl, rfl⟩, ?_⟩
    simp only [secondParagraph, List.forall_mem_cons, List.not_mem_nil, false_implies, implies_true,
      and_true]
    refine ⟨.all hdiv ?_, .nth rfl hp rfl (by decide) (by decide) (by simp), .all trivial ?_⟩
    · simpa using ⟨hclass, by decide⟩
    · simpa using ⟨hhref, by decide, by decide⟩
  have hgrammatical : ∀ s ∈ secondParagraph, s.Grammatical := by
    simp only [secondParagraph, List.forall_mem_cons, List.not_mem_nil, false_implies, implies_true,
      and_true]
    refine ⟨⟨hdiv.valid, ?_⟩, ⟨hp.valid, ?_⟩, ⟨trivial, ?_⟩⟩
    · simpa using ⟨hclass.valid, by decide⟩
    · simpa using ⟨by decide, by decide⟩
    · simpa using ⟨hhref.valid, by decide⟩
  have hending : Ending.element.Proper := trivial
  have htext := spelled_written hgrammatical hending
  have hwritten : secondParagraph.flatMap Step.written ++ Ending.element.written =
      "//div[@class='a b']//p[2]/*[contains(@href,'/]\"')]".toList := by
    decide +kernel
  rw [hwritten] at htext
  have hpage : paragraphPage.IsTree .html := by
    refine ⟨?_, rfl⟩
    simp only [paragraphPage, List.forall_mem_cons, List.not_mem_nil, false_implies, implies_true,
      and_true]
    have hlink : Node.IsTree .html
        (.element ⟨4, .html, "a", [{ name := "href", value := "x/]\"y" }]⟩ []) :=
      .element rfl (by decide) (by simp)
    refine .element rfl (by decide) ?_
    simp only [List.forall_mem_cons, List.not_mem_nil, false_implies, implies_true, and_true]
    refine ⟨.element rfl (by decide) ?_, .text, .element rfl (by decide) ?_⟩
    · simp
    · simpa using hlink
  obtain ⟨path, s, hread, hselector, hsame⟩ := read_selects_same hsteps htext
  refine ⟨hsteps, htext, hpage, ?_, path, s, hread, hselector, (hsame _ _ hpage).1⟩
  refine ⟨_, ?_, List.mem_singleton_self _⟩
  rfl

end Stepwise.Path
