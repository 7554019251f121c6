import Stepwise.Proofs.Path.Compound

namespace Stepwise.Path

open Markup (Scope Place Document Node Space)

variable {space : Space} {p : Place} {page : Document} {first : Step} {rest : List Step}
  {path : Path} {text : List Char}

-- A walk along compiled compounds, where the first one may match anywhere in a page.
theorem reaches_anywhere_iff (hpage : page.IsTree space) :
    Reaches Step.Matches ({ first with axis := .descendant } :: rest) page.scope (.element p) ↔
      ∃ q ∈ page.places, first.Matches q ∧
        Reaches Step.Matches rest (.element q) (.element p) := by
  simp only [Reaches, hpage.mem_places_iff]
  exact exists_congr fun q => and_congr_left fun _ => exists_mem_scopes_iff hpage.scope_isTree

theorem reaches_anchored_iff (haxis : first.axis = .child) :
    Reaches Step.Matches (first :: rest) page.scope (.element p) ↔
      ∃ q ∈ page.scope.elements, first.Matches q ∧
        Reaches Step.Matches rest (.element q) (.element p) := by
  simp only [Reaches, haxis, Axis.scopes, List.mem_singleton, exists_eq_left]

-- The selector of a path says nothing about its first axis, so it matches what the path reaches from
-- any element of the page that its first step matches.
theorem selects_iff_reaches_anywhere (hpage : page.IsTree space)
    (hreadable : ∀ s ∈ first :: rest, s.Readable) :
    p ∈ page.places ∧ Selector.selects ⟨[chain (.compound first.parts) rest]⟩ p = true ↔
      ∃ q ∈ page.places, first.Matches q ∧
        Reaches Step.Matches rest (.element q) (.element p) := by
  have hholds : Reaches (fun s q => ∀ part ∈ s.parts, part.holds none q = true)
      ({ first with axis := .descendant } :: rest) page.scope (.element p) ↔
        page.scope.Holds p ∧ (chain (.compound first.parts) rest).holds none p = true :=
    reaches_holds_iff hpage.scope_isTree rfl
  rw [selects_singleton, hpage.mem_places_iff]
  refine hholds.symm.trans (Iff.trans ?_ (reaches_anywhere_iff hpage))
  refine Reaches.congr hpage.scope_isTree fun s hs q _ => ?_
  rcases List.mem_cons.1 hs with rfl | hs
  · exact (hreadable first List.mem_cons_self).matches_iff.symm
  · exact (hreadable s (List.mem_cons_of_mem _ hs)).matches_iff.symm

-- A path that begins with one slash is anchored on a page exactly when an element below the root that
-- its first step matches leads to nothing new.
theorem read_anchored_iff (hread : read text = .ok path) (hsteps : path.steps = first :: rest)
    (haxis : first.axis = .child) (hlegible : ∀ s ∈ path.steps, s.Legible) :
    ∃ selector, Selector.read? path.selectorText = some selector ∧
      ∀ (space : Space) (page : Document), page.IsTree space →
        (∀ p ∈ page.places, selector.selects p = true ↔
          ∃ q ∈ page.places, first.Matches q ∧
            Reaches Step.Matches rest (.element q) (.element p)) ∧
        ((∀ p ∈ page.places, selector.selects p = true →
            Reaches Step.Matches path.steps page.scope (.element p)) ↔
          ∀ q ∈ page.places, q ∉ page.scope.elements → first.Matches q →
            ∀ p, Reaches Step.Matches rest (.element q) (.element p) →
              Reaches Step.Matches path.steps page.scope (.element p)) ∧
        ((∀ s ∈ path.steps, s.Plain) →
          (space = .html → ∀ s ∈ path.steps, ∀ c ∈ s.conditions, c.Cased) →
          ∀ p, Reaches Step.Matches path.steps page.scope (.element p) ↔
            Selects page path.steps p) := by
  have hreadable : ∀ s ∈ path.steps, s.Readable := fun s hs =>
    (proper_of_read hread s hs).readable (hlegible s hs)
  refine ⟨_, read?_selectorText hsteps hreadable, fun space page hpage => ⟨fun p hp => ?_, ?_, ?_⟩⟩
  · rw [hsteps] at hreadable
    exact (and_iff_right hp).symm.trans (selects_iff_reaches_anywhere hpage hreadable)
  · rw [hsteps] at hreadable ⊢
    constructor
    · intro hanchored q hq _ hmatches p hreaches
      obtain ⟨hp, hselects⟩ :=
        (selects_iff_reaches_anywhere hpage hreadable).2 ⟨q, hq, hmatches, hreaches⟩
      exact hanchored p hp hselects
    · intro hbelow p hp hselects
      obtain ⟨q, hq, hmatches, hreaches⟩ :=
        (selects_iff_reaches_anywhere hpage hreadable).1 ⟨hp, hselects⟩
      by_cases hroot : q ∈ page.scope.elements
      · exact (reaches_anchored_iff haxis).2 ⟨q, hroot, hmatches, hreaches⟩
      · exact hbelow q hq hroot hmatches p hreaches
  · exact fun hplain hcase p => (mem_evaluate_iff_matches hpage.scope_isTree hplain hcase).symm

def bodyParagraph : List Step :=
  [⟨.child, .name "html", []⟩, ⟨.child, .name "body", []⟩, ⟨.descendant, .name "p", []⟩]

def bodyPage : Document where
  children :=
    [.element ⟨1, .html, "html", []⟩
      [.element ⟨2, .html, "body", []⟩ [.element ⟨3, .html, "p", []⟩ [.text "x"]]]]
  loose := []

-- Its elements, from the outside in.

def htmlPlace : Place :=
  .top true [] ⟨1, .html, "html", []⟩
    [.element ⟨2, .html, "body", []⟩ [.element ⟨3, .html, "p", []⟩ [.text "x"]]] []

def bodyPlace : Place :=
  .inside htmlPlace [] ⟨2, .html, "body", []⟩ [.element ⟨3, .html, "p", []⟩ [.text "x"]] []

def paragraphPlace : Place := .inside bodyPlace [] ⟨3, .html, "p", []⟩ [.text "x"] []

theorem places_bodyPage : bodyPage.places = [htmlPlace, bodyPlace, paragraphPlace] := rfl

theorem isTree_bodyPage : bodyPage.IsTree .html :=
  ⟨by simp [bodyPage, Markup.Tag.Distinct], rfl⟩

-- A name that no element below the root has keeps a path anchored.
theorem read_anchored_iff_bodyParagraph :
    read "/html/body//p".toList = .ok ⟨bodyParagraph, .text⟩ ∧
      (∀ s ∈ bodyParagraph, s.Legible) ∧ bodyPage.IsTree .html ∧
      ∃ selector, Selector.read? (selectorText ⟨bodyParagraph, .text⟩) = some selector ∧
        (∃ p ∈ bodyPage.places, p.tag.stamp = 3 ∧ selector.selects p = true) ∧
        ∀ p ∈ bodyPage.places, selector.selects p = true →
          Reaches Step.Matches bodyParagraph bodyPage.scope (.element p) := by
  have hlegible : ∀ s ∈ bodyParagraph, s.Legible := by decide
  have hread : read "/html/body//p".toList = .ok ⟨bodyParagraph, .text⟩ :=
    read_written (List.cons_ne_nil _ _) (by decide) (by decide)
  obtain ⟨selector, hselector, hpage⟩ := read_anchored_iff hread rfl rfl hlegible
  obtain ⟨-, hanchored, -⟩ := hpage .html bodyPage isTree_bodyPage
  have hreadable : ∀ s ∈ bodyParagraph, s.Readable := fun s hs =>
    (proper_of_read hread s hs).readable (hlegible s hs)
  refine ⟨hread, hlegible, isTree_bodyPage, selector, hselector, ?_,
    hanchored.2 fun q hq hroot hmatches => ?_⟩
  · have hchain := read?_selectorText (p := ⟨bodyParagraph, .text⟩) rfl hreadable
    rw [hselector, Option.some.injEq] at hchain
    rw [hchain]
    exact ⟨paragraphPlace, by simp [places_bodyPage], rfl, rfl⟩
  · -- only the root is named as the first step asks
    have hname := List.forall_mem_singleton.1
      ((hreadable _ List.mem_cons_self).matches_iff.1 hmatches)
    rw [places_bodyPage] at hq
    simp only [List.mem_cons, List.not_mem_nil, or_false] at hq
    rcases hq with rfl | rfl | rfl
    · exact absurd (List.mem_singleton_self htmlPlace) hroot
    · exact absurd hname (by decide)
    · exact absurd hname (by decide)

-- A page whose root is no paragraph, with a paragraph that the path is not meant to reach.
theorem not_anchored_paragraph :
    read "/p".toList = .ok ⟨[⟨.child, .name "p", []⟩], .text⟩ ∧ bodyPage.IsTree .html ∧
      bodyPage.scope.elements = [htmlPlace] ∧ htmlPlace.tag.name = "html" ∧
      ∃ selector, Selector.read? (selectorText ⟨[⟨.child, .name "p", []⟩], .text⟩) = some selector ∧
        ∃ p ∈ bodyPage.places, selector.selects p = true ∧
          ¬ Reaches Step.Matches [⟨.child, .name "p", []⟩] bodyPage.scope (.element p) ∧
          ¬ Selects bodyPage [⟨.child, .name "p", []⟩] p := by
  have hread : read "/p".toList = .ok ⟨[⟨.child, .name "p", []⟩], .text⟩ :=
    read_written (List.cons_ne_nil _ _) (by decide) (by decide)
  have hroot : bodyPage.scope.elements = [htmlPlace] := rfl
  have hname : PlainName "p" := ⟨by decide, by decide, by decide⟩
  have hplain : Step.Plain ⟨.child, .name "p", []⟩ := .all hname (by simp)
  have hselector := read?_selectorText (p := ⟨[⟨.child, .name "p", []⟩], .text⟩) rfl
    (List.forall_mem_singleton.2 hplain.readable)
  have hreaches : ¬ Reaches Step.Matches [⟨.child, .name "p", []⟩] bodyPage.scope
      (.element paragraphPlace) := by
    rw [reaches_anchored_iff rfl, hroot]
    rintro ⟨q, hq, -, heq⟩
    cases List.mem_singleton.1 hq
    cases heq
  have hselects := mem_evaluate_iff_matches (t := .element paragraphPlace) isTree_bodyPage.scope_isTree
    (List.forall_mem_singleton.2 hplain) (by simp)
  exact ⟨hread, isTree_bodyPage, hroot, rfl, _, hselector, paragraphPlace, by simp [places_bodyPage],
    rfl, hreaches, fun h => hreaches (hselects.1 h)⟩

end Stepwise.Path
