import Mathlib.Data.List.Induction
import Stepwise.Proofs.Path.Meaning
import Stepwise.Proofs.Path.Selector
import Stepwise.Proofs.Selector.Match

namespace Stepwise.Path

open Markup (Scope Place Document Tag Attribute Space)
open Selector (Simple ValueTest Operator)

variable {space : Space} {o : Scope} {p q : Place} {ps : List Place} {a v : String}
  {condition : Condition} {conditions : List Condition} {nameTest : NameTest} {s : Step}
  {steps : List Step} {n : Nat}

section Values

theorem attrHolds_eq (h : PlainName a) (p : Place) (test : Option ValueTest) :
    Selector.attrHolds p.tag false a test =
      (valuesOf p a).any fun value => match test with
        | none => true
        | some t => t.holds (p.tag.space == .html) value := by
  rw [Selector.attrHolds, Selector.nameOn_of_lower h.lower, valuesOf, List.any_map, List.any_filter]
  congr 1

-- A condition that does not count keeps the elements that its selector selects.
theorem Condition.Clear.mem_keep (h : condition.Clear) (hp : p.tag.Distinct) :
    p ∈ condition.keep ps ↔ p ∈ ps ∧ condition.simple.exact.holds none p = true := by
  cases condition with
  | position n => exact h.elim
  | present a =>
    have hname : PlainName a := h
    have hholds : (present a).simple.exact.holds none p = Selector.attrHolds p.tag false a none := by
      simp only [simple, Simple.exact, Simple.holds]
    rw [hholds, attrHolds_eq hname]
    cases hvalues : valuesOf p a <;> simp [keep, hvalues]
  | equal a v =>
    have hholds : (equal a v).simple.exact.holds none p =
        Selector.attrHolds p.tag false a (some ⟨.equal, v, .counts⟩) := by
      simp only [simple, Simple.exact, Simple.holds]
    have hname : PlainName a := h
    rw [hholds, attrHolds_eq hname]
    simp [keep, ValueTest.holds, Operator.test, String.toList_inj]
  | part a v =>
    have hholds : (part a v).simple.exact.holds none p =
        Selector.attrHolds p.tag false a (some ⟨.part, v, .counts⟩) := by
      simp only [simple, Simple.exact, Simple.holds]
    have hne : v.toList ≠ [] := by simpa using h.2
    rw [hholds, attrHolds_eq h.1]
    rcases valuesOf_cases hp a with hvalues | ⟨value, hvalues⟩
    · simp [keep, hvalues, Text.contains, Text.find?, hne]
    · simp [keep, hvalues, ValueTest.holds, Operator.test, hne]

end Values

section Position

theorem getElem?_append_cons {left right : List Place} (hleft : p ∉ left) (hright : p ∉ right)
    (k : Nat) : (left ++ p :: right)[k]? = some p ↔ k = left.length := by
  constructor
  · intro h
    rcases Nat.lt_trichotomy k left.length with hlt | heq | hgt
    · rw [List.getElem?_append_left hlt] at h
      exact absurd (List.mem_of_getElem? h) hleft
    · exact heq
    · obtain ⟨m, rfl⟩ := Nat.exists_eq_add_of_lt hgt
      have hindex : left.length + m + 1 - left.length = m + 1 := by omega
      rw [List.getElem?_append_right (by omega), hindex, List.getElem?_cons_succ] at h
      exact absurd (List.mem_of_getElem? h) hright
  · rintro rfl
    simp

theorem mem_keep_position : p ∈ (Condition.position n).keep ps ↔ ps[n - 1]? = some p := by
  rw [Condition.keep, List.take_one, List.head?_drop, Option.mem_toList]

-- The elements beside an element that have its name, with the element itself.
def namesakes (o : Scope) (p : Place) : List Place :=
  o.elements.filter fun q => q.tag.name == p.tag.name

-- The position of an element among those of its name is its index among those of its kind.
theorem getElem?_namesakes (ho : o.IsTree space) (hlow : 1 ≤ n) (hp : p ∈ o.elements) :
    (namesakes o p)[n - 1]? = some p ↔ Selector.indexOf p true false = n := by
  obtain ⟨helements, hearlier, hlater⟩ := Scope.elements_eq hp
  have hkind : (p.earlier.filter fun q => !true || q.tag.sameKind p.tag) =
      p.earlier.filter fun q => q.tag.name == p.tag.name := by
    refine List.filter_congr fun q hq => ?_
    have hq : q ∈ o.elements := by
      rw [helements]
      simp [hq]
    have hspace : q.tag.space = p.tag.space := (ho.element hq).1.trans (ho.element hp).1.symm
    simp [Tag.sameKind, hspace]
  have hfilter : namesakes o p = (p.earlier.filter fun q => q.tag.name == p.tag.name).reverse ++
      p :: p.later.filter fun q => q.tag.name == p.tag.name := by
    simp [namesakes, helements]
  have hleft : p ∉ (p.earlier.filter fun q => q.tag.name == p.tag.name).reverse := fun hmem =>
    hearlier (List.mem_filter.1 (List.mem_reverse.1 hmem)).1
  have hright : p ∉ p.later.filter fun q => q.tag.name == p.tag.name := fun hmem =>
    hlater (List.mem_filter.1 hmem).1
  have hindex : Selector.indexOf p true false =
      (p.earlier.filter fun q => q.tag.name == p.tag.name).length + 1 :=
    congrArg (fun others => others.length + 1) hkind
  rw [hfilter, getElem?_append_cons hleft hright, List.length_reverse, hindex]
  omega

theorem mem_keep_position_of_name (ho : o.IsTree space) (hlow : 1 ≤ n) {name : String}
    (hp : p ∈ o.elements.filter (NameTest.name name).accepts) :
    p ∈ (Condition.position n).keep (o.elements.filter (NameTest.name name).accepts) ↔
      Selector.indexOf p true false = n := by
  obtain ⟨hp, hname⟩ := List.mem_filter.1 hp
  have hsame : o.elements.filter (NameTest.name name).accepts = namesakes o p := by
    simp only [namesakes, beq_iff_eq.1 hname]
    rfl
  rw [mem_keep_position, hsame, getElem?_namesakes ho hlow hp]

end Position

section Step

theorem mem_foldl_keep (hconditions : ∀ c ∈ conditions, c.Clear) (hp : p.tag.Distinct) :
    p ∈ conditions.foldl (fun ps c => c.keep ps) ps ↔
      p ∈ ps ∧ ∀ c ∈ conditions, c.simple.exact.holds none p = true := by
  induction conditions generalizing ps with
  | nil => simp
  | cons c conditions ih =>
    rw [List.forall_mem_cons] at hconditions
    rw [List.foldl_cons, ih hconditions.2, hconditions.1.mem_keep hp, List.forall_mem_cons,
      and_assoc]

theorem NameTest.Plain.accepts_eq (h : nameTest.Plain) (p : Place) :
    nameTest.simple.exact.holds none p = nameTest.accepts p := by
  cases nameTest with
  | any => simp [simple, accepts, Simple.exact, Simple.holds]
  | name n =>
    have hname : PlainName n := h
    simp [simple, accepts, Simple.exact, Simple.holds, Selector.nameOn_of_lower hname.lower]

-- Of the elements right in a node a step keeps those that its compound selects.

theorem Step.Clear.mem_kept (h : s.Clear) (ho : o.IsTree space) :
    p ∈ s.kept o ↔ p ∈ o.elements ∧ ∀ part ∈ s.parts, part.exact.holds none p = true := by
  rw [parts, List.forall_mem_cons, List.forall_mem_map, h.test.accepts_eq, kept]
  by_cases hp : p ∈ o.elements
  · rw [mem_foldl_keep h.conditions (ho.element hp).2.1, List.mem_filter, and_assoc]
  · exact ⟨fun hmem => absurd (List.mem_filter.1 (mem_of_mem_foldl_keep hmem)).1 hp,
      fun hmem => absurd hmem.1 hp⟩

theorem Step.Plain.mem_kept (h : s.Plain) (ho : o.IsTree space) :
    p ∈ s.kept o ↔ p ∈ o.elements ∧ ∀ part ∈ s.parts, part.exact.holds none p = true := by
  cases h with
  | all htest hconditions =>
    exact Step.Clear.mem_kept ⟨htest, fun c hc => (hconditions c hc).clear⟩ ho
  | @nth name n conditions htest hname hposition hlow hhigh hconditions =>
    have hclear : ∀ c ∈ conditions, c.Clear := fun c hc => (hconditions c hc).clear
    have htestPlain : s.test.Plain := by
      rw [htest]
      exact hname
    have hindex : (Condition.position n).simple.exact.holds none p = true ↔
        Selector.indexOf p true false = n := by
      simp only [Condition.simple, Simple.exact, Simple.holds, Selector.has_index,
        Selector.Token.counted_of_lt hhigh]
    rw [parts, List.forall_mem_cons, List.forall_mem_map, htestPlain.accepts_eq, kept, hposition,
      List.foldl_cons, List.forall_mem_cons, htest, hindex]
    constructor
    · intro hmem
      have hkeep := mem_of_mem_foldl_keep hmem
      obtain ⟨hp, haccepts⟩ := List.mem_filter.1 (mem_of_mem_keep hkeep)
      obtain ⟨-, hrest⟩ := (mem_foldl_keep hclear (ho.element hp).2.1).1 hmem
      exact ⟨hp, haccepts, (mem_keep_position_of_name ho hlow (mem_of_mem_keep hkeep)).1 hkeep, hrest⟩
    · rintro ⟨hp, haccepts, hsame, hrest⟩
      have hmem := List.mem_filter.2 ⟨hp, haccepts⟩
      exact (mem_foldl_keep hclear (ho.element hp).2.1).2
        ⟨(mem_keep_position_of_name ho hlow hmem).2 hsame, hrest⟩

theorem Step.Plain.mem_select (h : s.Plain) (ho : ∀ r ∈ s.axis.scopes o, r.IsTree space) :
    p ∈ s.select o ↔ (∃ r ∈ s.axis.scopes o, p ∈ r.elements) ∧
      ∀ part ∈ s.parts, part.exact.holds none p = true := by
  rw [Step.mem_select]
  constructor
  · rintro ⟨r, hr, hp⟩
    obtain ⟨hmem, hparts⟩ := (h.mem_kept (ho r hr)).1 hp
    exact ⟨⟨r, hr, hmem⟩, hparts⟩
  · rintro ⟨⟨r, hr, hmem⟩, hparts⟩
    exact ⟨r, hr, (h.mem_kept (ho r hr)).2 ⟨hmem, hparts⟩⟩

end Step

section Chain

variable {ns : List Markup.Node} {first : Step} {more : List Step} {t : Scope}
  {fits : Step → Place → Prop}

theorem exists_mem_scopes_iff (ho : o.IsTree space) :
    (∃ o' ∈ Axis.descendant.scopes o, p ∈ o'.elements) ↔ o.Holds p := by
  constructor
  · rintro ⟨o', ho', hp⟩
    rcases List.mem_cons.1 ho' with rfl | ho'
    · exact .first hp
    · obtain ⟨q, hq, rfl⟩ := List.mem_map.1 ho'
      exact .next ((Scope.mem_below_iff_holds ho).1 hq) hp
  · intro h
    cases h with
    | first hp => exact ⟨o, List.mem_cons_self, hp⟩
    | @next _ q hq hp =>
      have hbelow := (Scope.mem_below_iff_holds ho).2 hq
      exact ⟨.element q, List.mem_cons_of_mem _ (List.mem_map_of_mem hbelow), hp⟩

theorem isTree_of_mem_scopes (ho : o.IsTree space) {axis : Axis} :
    ∀ o' ∈ axis.scopes o, o'.IsTree space := by
  intro o' ho'
  cases axis with
  | child =>
    obtain rfl := List.mem_singleton.1 ho'
    exact ho
  | descendant =>
    rcases List.mem_cons.1 ho' with rfl | ho'
    · exact ho
    · obtain ⟨q, hq, rfl⟩ := List.mem_map.1 ho'
      exact (((Scope.mem_below_iff_holds ho).1 hq).element ho).2.2

-- To the left of a combinator stand the elements that its axis starts from.
theorem mem_reach_iff (hns : (Scope.page ns).IsTree space) (axis : Axis) :
    (Scope.page ns).Holds p ∧ q ∈ axis.combinator.reach p ↔
      (Scope.page ns).Holds q ∧ ∃ o' ∈ axis.scopes (.element q), p ∈ o'.elements := by
  cases axis with
  | child =>
    have hscopes : (∃ o' ∈ Axis.child.scopes (.element q), p ∈ o'.elements) ↔
        p ∈ (Scope.element q).elements := by
      simp [Axis.scopes]
    have hreach : q ∈ Axis.child.combinator.reach p ↔ p.parent? = some q := by
      simp [Axis.combinator, Selector.Combinator.reach]
    rw [hscopes, hreach]
    constructor
    · rintro ⟨hp, hparent⟩
      exact (Scope.parent?_eq_some_iff hp).1 hparent
    · rintro ⟨hq, hp⟩
      exact ⟨.next hq hp, Scope.parent?_of_mem_elements hp⟩
  | descendant =>
    have hreach : q ∈ Axis.descendant.combinator.reach p ↔ q ∈ p.ancestors := Iff.rfl
    rw [hreach]
    constructor
    · rintro ⟨hp, hancestor⟩
      obtain ⟨hq, hholds⟩ := (Scope.mem_ancestors_iff hp).1 hancestor
      exact ⟨hq, (exists_mem_scopes_iff (hq.element hns).2.2).2 hholds⟩
    · rintro ⟨hq, hscopes⟩
      have hholds := (exists_mem_scopes_iff (hq.element hns).2.2).1 hscopes
      have hp := hq.trans hholds
      exact ⟨hp, (Scope.mem_ancestors_iff hp).2 ⟨hq, hholds⟩⟩

-- A path as a walk: each step leads to an element right in one of the nodes that its axis names, and
-- on from there.
def Reaches (fits : Step → Place → Prop) : List Step → Scope → Scope → Prop
  | [], o, t => t = o
  | s :: steps, o, t =>
    ∃ q, (∃ r ∈ s.axis.scopes o, q ∈ r.elements) ∧ fits s q ∧ Reaches fits steps (.element q) t

theorem reaches_append : Reaches fits (steps ++ more) o t ↔
    ∃ m, Reaches fits steps o m ∧ Reaches fits more m t := by
  induction steps generalizing o with
  | nil =>
    simp only [List.nil_append, Reaches]
    exact ⟨fun h => ⟨o, rfl, h⟩, fun ⟨m, hm, h⟩ => hm ▸ h⟩
  | cons s steps ih =>
    simp only [List.cons_append, Reaches, ih]
    constructor
    · rintro ⟨q, hq, hfits, m, hm, hmore⟩
      exact ⟨m, ⟨q, hq, hfits, hm⟩, hmore⟩
    · rintro ⟨m, ⟨q, hq, hfits, hm⟩, hmore⟩
      exact ⟨q, hq, hfits, m, hm, hmore⟩

theorem reaches_singleton : Reaches fits [s] o (.element p) ↔
    (∃ r ∈ s.axis.scopes o, p ∈ r.elements) ∧ fits s p := by
  simp only [Reaches, Scope.element.injEq]
  exact ⟨fun ⟨q, hq, hfits, heq⟩ => heq ▸ ⟨hq, hfits⟩, fun ⟨hp, hfits⟩ => ⟨p, hp, hfits, rfl⟩⟩

theorem exists_of_reaches (h : Reaches fits (s :: steps) o t) : ∃ q, t = .element q := by
  induction steps generalizing s o with
  | nil =>
    obtain ⟨q, -, -, rfl⟩ := h
    exact ⟨q, rfl⟩
  | cons s' steps ih =>
    obtain ⟨q, -, -, h⟩ := h
    exact ih h

theorem Reaches.congr {fits' : Step → Place → Prop} (ho : o.IsTree space)
    (hfits : ∀ s ∈ steps, ∀ q, q.tag.space = space → (fits s q ↔ fits' s q)) :
    Reaches fits steps o t ↔ Reaches fits' steps o t := by
  induction steps generalizing o with
  | nil => exact Iff.rfl
  | cons s steps ih =>
    rw [List.forall_mem_cons] at hfits
    simp only [Reaches]
    refine exists_congr fun q => and_congr_right fun ⟨r, hr, hq⟩ => ?_
    obtain ⟨hspace, -, htree⟩ := (isTree_of_mem_scopes ho r hr).element hq
    exact and_congr (hfits.1 q hspace) (ih htree hfits.2)

-- A path selects what its steps reach.
theorem mem_evaluate_iff (ho : o.IsTree space) (hsteps : ∀ s ∈ steps, s.Plain) :
    t ∈ evaluate steps o ↔
      Reaches (fun s q => ∀ part ∈ s.parts, part.exact.holds none q = true) steps o t := by
  induction steps generalizing o with
  | nil => exact List.mem_singleton
  | cons s steps ih =>
    rw [List.forall_mem_cons] at hsteps
    rw [evaluate_cons, List.mem_flatMap]
    simp only [Reaches, hsteps.1.mem_select (isTree_of_mem_scopes ho), and_assoc]
    refine exists_congr fun q => and_congr_right fun ⟨r, hr, hq⟩ => and_congr_right fun _ => ?_
    exact ih ((isTree_of_mem_scopes ho r hr).element hq).2.2 hsteps.2

-- What a walk from anywhere in a page reaches can be told from its end, step by step back along the
-- combinators. The induction takes the last step away.
theorem reaches_iff (left : List Step → Place → Prop) (hns : (Scope.page ns).IsTree space)
    (haxis : first.axis = .descendant) (hfirst : ∀ p, left [] p ↔ fits first p)
    (hnext : ∀ steps s p, left (steps ++ [s]) p ↔
      fits s p ∧ ∃ q ∈ s.axis.combinator.reach p, left steps q) :
    Reaches fits (first :: steps) (.page ns) (.element p) ↔
      (Scope.page ns).Holds p ∧ left steps p := by
  induction steps using List.reverseRecOn generalizing p with
  | nil => rw [reaches_singleton, haxis, exists_mem_scopes_iff hns, hfirst]
  | append_singleton steps s ih =>
    rw [← List.cons_append, reaches_append, hnext]
    constructor
    · rintro ⟨o, ho, hp⟩
      obtain ⟨q, rfl⟩ := exists_of_reaches ho
      obtain ⟨hq, hleft⟩ := ih.1 ho
      obtain ⟨hscopes, hfits⟩ := reaches_singleton.1 hp
      obtain ⟨hp, hreach⟩ := (mem_reach_iff hns s.axis).2 ⟨hq, hscopes⟩
      exact ⟨hp, hfits, q, hreach, hleft⟩
    · rintro ⟨hp, hfits, q, hreach, hleft⟩
      obtain ⟨hq, hscopes⟩ := (mem_reach_iff hns s.axis).1 ⟨hp, hreach⟩
      exact ⟨.element q, ih.2 ⟨hq, hleft⟩, reaches_singleton.2 ⟨hscopes, hfits⟩⟩

theorem chain_concat (left : Selector.Complex) (steps : List Step) (s : Step) :
    chain left (steps ++ [s]) = .joined (chain left steps) s.axis.combinator s.parts := by
  simp [chain]

theorem allHold_exact (parts : List Simple) :
    Selector.allHold none p (parts.map Simple.exact) = true ↔
      ∀ part ∈ parts, part.exact.holds none p = true := by
  rw [Selector.allHold_iff, List.forall_mem_map]

-- Read from the left, a path reaches what its selector, read from the right, matches.
theorem reaches_exact_iff (hns : (Scope.page ns).IsTree space) (haxis : first.axis = .descendant) :
    Reaches (fun s q => ∀ part ∈ s.parts, part.exact.holds none q = true) (first :: steps) (.page ns)
        (.element p) ↔
      (Scope.page ns).Holds p ∧
        (chain (.compound first.parts) steps).exact.holds none p = true := by
  refine reaches_iff (fun steps p => (chain (.compound first.parts) steps).exact.holds none p = true)
    hns haxis (fun p => ?_) fun steps s p => ?_
  · simp only [chain, List.foldl_nil, Selector.Complex.exact, Selector.Complex.holds, allHold_exact]
  · simp only [chain_concat, Selector.Complex.exact, Selector.Complex.holds, Bool.and_eq_true,
      allHold_exact, List.any_eq_true]

theorem reaches_holds_iff (hns : (Scope.page ns).IsTree space) (haxis : first.axis = .descendant) :
    Reaches (fun s q => ∀ part ∈ s.parts, part.holds none q = true) (first :: steps) (.page ns)
        (.element p) ↔
      (Scope.page ns).Holds p ∧ (chain (.compound first.parts) steps).holds none p = true := by
  refine reaches_iff (fun steps p => (chain (.compound first.parts) steps).holds none p = true)
    hns haxis (fun p => ?_) fun steps s p => ?_
  · simp only [chain, List.foldl_nil, Selector.Complex.holds, Selector.allHold_iff]
  · simp only [chain_concat, Selector.Complex.holds, Bool.and_eq_true, Selector.allHold_iff,
      List.any_eq_true]

end Chain

end Stepwise.Path
