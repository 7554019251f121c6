import Stepwise.Proofs.Path.Compound

namespace Stepwise

namespace Selector

variable {inner : Inner} {hasAllowed : Bool} {fuel : Nat} {vs rest : List Value}
  {left c : Complex} {cs : List Char}

-- The conditions on each element of a chain, and the combinators between them, from left to right.

def Complex.compounds : Complex → List (List Simple)
  | .compound parts => [parts]
  | .joined left _ parts => left.compounds ++ [parts]

def Complex.combinators : Complex → List Combinator
  | .compound _ => []
  | .joined left combinator _ => left.combinators ++ [combinator]

theorem readChain_compounds (h : readChain inner hasAllowed fuel left vs = .ok (c, rest)) :
    ∃ more, c.compounds = left.compounds ++ more := by
  induction fuel generalizing left vs with
  | zero =>
    cases h
    exact ⟨[], (List.append_nil _).symm⟩
  | succ fuel ih =>
    rw [readChain] at h
    split at h
    · cases h
      exact ⟨[], (List.append_nil _).symm⟩
    · next combinator next _ =>
      obtain ⟨⟨parts, next⟩, -, hchain⟩ := bind_eq_ok_iff.1 h
      obtain ⟨more, hmore⟩ := ih hchain
      exact ⟨parts :: more, by rw [hmore, Complex.compounds, List.append_assoc]; rfl⟩

theorem exists_of_readComplex (h : readComplex inner topMode vs = .ok c) :
    ∃ parts rest more, readCompound inner true (skipSpaces vs) = .ok (parts, rest) ∧
      readChain inner true rest.length (.compound parts) rest = .ok (c, more) := by
  simp only [readComplex, topMode, Bool.false_eq_true, if_false] at h
  obtain ⟨⟨parts, rest⟩, hparts, h⟩ := bind_eq_ok_iff.1 h
  obtain ⟨_, hfirst, h⟩ := bind_eq_ok_iff.1 h
  cases hfirst
  obtain ⟨⟨complex, more⟩, hchain, h⟩ := bind_eq_ok_iff.1 h
  refine ⟨parts, rest, more, hparts, ?_⟩
  split at h
  · cases h
  · cases h
    exact hchain

-- No part of a whole selector may fail, and the first part begins as the selector does.
theorem exists_of_read? (h : read? cs = some ⟨[c]⟩)
    (hvalues : Value.ofTokens (Token.all cs) = vs ++ rest)
    (hcommas : ∀ v ∈ vs, v.isComma = false) :
    ∃ inner part, readComplex inner topMode (vs ++ part) = .ok c := by
  obtain ⟨part, parts, hparts⟩ := splitAtCommas_append hcommas rest
  rw [read?, readList, hvalues, hparts, List.mapM_cons] at h
  obtain ⟨alternatives, hlist, heq⟩ := Option.map_eq_some_iff.1 h
  obtain ⟨first, hfirst, hlist⟩ := Option.bind_eq_some_iff.1 hlist
  obtain ⟨more, -, hlist⟩ := Option.bind_eq_some_iff.1 hlist
  cases hlist
  cases heq
  refine ⟨readList cs.length, part, ?_⟩
  split at hfirst
  · next hread =>
    cases hfirst
    exact hread
  · cases hfirst

end Selector

namespace Path

open Selector (Token Value Simple Inner)

variable {condition : Condition} {conditions : List Condition} {nameTest : NameTest} {s : Step}
  {steps : List Step} {path : Path} {a : String} {cs more : List Char} {ts : List Token}
  {vs : List Value}

section Contained

-- What keeps the parts of a path apart in its selector: no colon in a name, where it begins a
-- pseudo-class, and no end of a line in a value, where it breaks the text off.

def Condition.Contained : Condition → Prop
  | position _ => True
  | present a => ':' ∉ a.toList
  | equal a v | part a v => ':' ∉ a.toList ∧ OneLine v

structure Step.Contained (s : Step) : Prop where
  test : s.test.Legible
  conditions : ∀ c ∈ s.conditions, c.Contained

instance (condition : Condition) : Decidable condition.Contained :=
  match condition with
  | .position _ => inferInstanceAs (Decidable True)
  | .present a => inferInstanceAs (Decidable (':' ∉ a.toList))
  | .equal a v | .part a v => inferInstanceAs (Decidable (':' ∉ a.toList ∧ OneLine v))

instance (s : Step) : Decidable s.Contained :=
  decidable_of_iff (s.test.Legible ∧ ∀ c ∈ s.conditions, c.Contained)
    ⟨fun h => ⟨h.1, h.2⟩, fun h => ⟨h.test, h.conditions⟩⟩

theorem Condition.Proper.whole (h : condition.Proper) (hcontained : condition.Contained) :
    condition.Whole := by
  cases condition with
  | position n => exact trivial
  | present a => exact ⟨h, hcontained⟩
  | equal a v => exact ⟨⟨h, hcontained.1⟩, hcontained.2⟩
  | part a v => exact ⟨⟨h, hcontained.1⟩, hcontained.2⟩

theorem Step.Proper.whole (h : s.Proper) (hcontained : s.Contained) : s.Whole :=
  ⟨h.test.readable hcontained.test,
    fun c hc => (h.conditions c hc).whole (hcontained.conditions c hc)⟩

end Contained

section Mirrors

-- A condition of a selector that asks for what a condition of a path asks for, whatever the value.
inductive Condition.Says : Condition → Simple → Prop
  | position (n : Nat) : Says (.position n) (.nth true false ⟨0, Token.counted n⟩)
  | present (a : String) : Says (.present a) (.attr false a none)
  | equal (a v value : String) (rule : Selector.CaseRule) :
    Says (.equal a v) (.attr false a (some ⟨.equal, value, rule⟩))
  | part (a v value : String) (rule : Selector.CaseRule) :
    Says (.part a v) (.attr false a (some ⟨.part, value, rule⟩))

inductive Step.Says (s : Step) : List Simple → Prop
  | intro {more : List Simple} (hmore : List.Forall₂ Condition.Says s.conditions more) :
    Says s (s.test.simple :: more)

-- A chain with one element for each step, which asks for the whole name of the step and for nothing
-- but the conditions of the step.
structure Mirrors (steps : List Step) (c : Selector.Complex) : Prop where
  combinators : c.combinators = steps.tail.map (·.axis.combinator)
  compounds : List.Forall₂ Step.Says steps c.compounds

theorem Condition.says_shown (condition : Condition) : condition.Says condition.shown.simple := by
  cases condition with
  | position n => exact .position n
  | present a => exact .present a
  | equal a v => exact .equal a v _ _
  | part a v => exact .part a v _ _

theorem Step.says_shown (s : Step) : s.Says s.shown.parts := by
  refine .intro ?_
  rw [shown, List.map_map, List.forall₂_map_right_iff, List.forall₂_same]
  exact fun c _ => c.says_shown

theorem chain_compounds (left : Selector.Complex) (steps : List Step) :
    (chain left steps).compounds = left.compounds ++ steps.map Step.parts := by
  induction steps generalizing left with
  | nil => exact (List.append_nil _).symm
  | cons s steps ih =>
    refine (ih _).trans ?_
    rw [Selector.Complex.compounds, List.append_assoc]
    rfl

theorem chain_combinators (left : Selector.Complex) (steps : List Step) :
    (chain left steps).combinators = left.combinators ++ steps.map (·.axis.combinator) := by
  induction steps generalizing left with
  | nil => exact (List.append_nil _).symm
  | cons s steps ih =>
    refine (ih _).trans ?_
    rw [Selector.Complex.combinators, List.append_assoc]
    rfl

theorem mirrors_chain (first : Step) (steps : List Step) :
    Mirrors (first :: steps) (chain (.compound first.shown.parts) (steps.map Step.shown)) where
  combinators := by
    rw [chain_combinators, List.map_map]
    rfl
  compounds := by
    rw [chain_compounds, List.map_map]
    refine .cons first.says_shown ?_
    exact List.forall₂_map_right_iff.2 (List.forall₂_same.2 fun s _ => s.says_shown)

end Mirrors

section Misread

-- What a part of a path that is not contained leads to: its first words are those of another step,
-- and a selector cannot go on from there as the path does.

theorem isName_left {front back : List Char} (h : isName (front ++ back) = true)
    (hne : front ≠ []) : isName front = true := by
  obtain ⟨c, front, rfl⟩ := List.exists_cons_of_ne_nil hne
  obtain ⟨hstart, hparts⟩ := isName_cons_iff.1 h
  exact isName_cons_iff.2 ⟨hstart, fun d hd => hparts d (List.mem_append_left _ hd)⟩

-- A name with a colon is cut there.
theorem all_colon (h : isName a.toList = true) (hcolon : ':' ∈ a.toList) (more : List Char) :
    ∃ front rest, front ≠ a ∧ Token.all (a.toList ++ more) = .ident front :: .colon :: rest := by
  obtain ⟨front, back, hname, hfront⟩ := List.eq_append_cons_of_mem hcolon
  have hne : front ≠ [] := by
    rintro rfl
    rw [hname] at h
    exact absurd (isName_cons_iff.1 h).1 (by decide)
  have hvalid : isName front = true := isName_left (by rwa [← hname]) hne
  have hends : Token.EndsName (':' :: (back ++ more)) :=
    Token.endsName_cons (by decide) (by decide) (by decide)
  have hword := Token.all_name hvalid hfront hends (by simp)
  have hnext : Token.next ':' (back ++ more) = (some .colon, back ++ more) := rfl
  refine ⟨String.ofList front, Token.all (back ++ more), ?_, ?_⟩
  · rintro rfl
    rw [String.toList_ofList] at hcolon
    exact hfront hcolon
  · rw [hname, List.append_assoc, List.cons_append, hword, Token.all_of_next hnext]

-- Words between square brackets that no condition begins with.
def Unread (ts : List Token) : Prop :=
  ∀ content, Selector.readAttr (ts.map .token ++ content) = none

-- A text that opens a bracket with such words.
def Unreadable (text : List Char) : Prop :=
  ∃ ts rest, Token.all text = .opener .square :: (ts ++ rest) ∧
    Value.Folds ts (ts.map .token) ∧ Unread ts

theorem unreadable_colon (h : isName a.toList = true) (hcolon : ':' ∈ a.toList)
    (more : List Char) : Unreadable ('[' :: a.toList ++ more) := by
  obtain ⟨front, rest, -, hwords⟩ := all_colon h hcolon more
  have hopen : Token.next '[' (a.toList ++ more) = (some (.opener .square), a.toList ++ more) := rfl
  refine ⟨[.ident front, .colon], rest, ?_, folds_plain _ (by simp), fun content => rfl⟩
  rw [List.cons_append, Token.all_of_next hopen, hwords]
  rfl

theorem exists_broken {v : String} (h : ¬ OneLine v) (more : List Char) :
    ∃ rest, Token.all (quoted v ++ more) = .broken :: rest := by
  obtain ⟨c, hc, hline⟩ : ∃ c ∈ v.toList, Token.isNewline c = true := by
    simpa [OneLine] using h
  have htext : quoted v ++ more = '"' :: escape v.toList ++ ('"' :: more) := by
    simp [quoted]
  rw [htext]
  exact Token.all_quoted_newline hc hline _

-- `c` and what follows it up to the value are the word `t`.
theorem unreadable_test {v : String} {c : Char} {rest : List Char} {t : Token}
    (h : isName a.toList = true) (hbad : ¬ (':' ∉ a.toList ∧ OneLine v)) (hc : c ∈ [']', '=', '*'])
    (hnext : Token.next c rest = (some t, quoted v ++ more))
    (hfolds : Value.Folds [.ident a, t, .broken] [.token (.ident a), .token t, .token .broken])
    (hunread : Unread [.ident a, t, .broken]) : Unreadable ('[' :: a.toList ++ c :: rest) := by
  by_cases hcolon : ':' ∈ a.toList
  · exact unreadable_colon h hcolon _
  · obtain ⟨later, hbroken⟩ := exists_broken (fun hline => hbad ⟨hcolon, hline⟩) more
    have hword := all_attribute ⟨h, hcolon⟩ (c :: rest) (by simpa using hc)
    rw [Token.all_of_next hnext, hbroken] at hword
    exact ⟨[.ident a, t, .broken], later, hword, hfolds, hunread⟩

theorem Condition.Proper.unreadable (h : condition.Proper) (hbad : ¬ condition.Contained)
    (more : List Char) : Unreadable (condition.selectorText ++ more) := by
  unfold selectorText
  cases condition with
  | position n => exact absurd trivial hbad
  | present a =>
    have hcolon : ':' ∈ a.toList := not_not.1 hbad
    have hwords := unreadable_colon h hcolon (']' :: more)
    simpa using hwords
  | equal a v =>
    have hnext : Token.next '=' (quoted v ++ ']' :: more) =
        (some (.delim '='), quoted v ++ ']' :: more) := rfl
    have hwords := unreadable_test h hbad (by simp) hnext
      (folds_plain [.ident a, .delim '=', .broken] (by simp)) fun content => rfl
    simpa using hwords
  | part a v =>
    have hnext : Token.next '*' ('=' :: (quoted v ++ ']' :: more)) =
        (some (.operator .part), quoted v ++ ']' :: more) := rfl
    have hwords := unreadable_test h hbad (by simp) hnext
      (folds_plain [.ident a, .operator .part, .broken] (by simp)) fun content => rfl
    simpa using hwords

-- A selector reads the words of `t` and stops at `v`, and this is not what `s` says.
structure Step.Misread (s t : Step) (v : Value) : Prop where
  comma : v.isComma = false
  compound {inner : Inner} {vs rest next : List Value} {parts : List Simple}
    (hvs : Selector.skipSpaces vs = t.values ++ v :: rest)
    (hread : Selector.readCompound inner true vs = .ok (parts, next)) : ¬ s.Says parts

theorem misread_colon {n front : String} (htest : s.test = .name n) (hne : front ≠ n) :
    s.Misread ⟨s.axis, .name front, []⟩ (.token .colon) where
  comma := rfl
  compound hvs hread hsays := by
    rw [Step.readCompound_append hvs (by simp), map_eq_ok_iff] at hread
    obtain ⟨p, -, hparts⟩ := hread
    cases hsays
    rw [htest] at hparts
    cases hparts
    exact hne rfl

theorem misread_block {t : Step} {ts : List Token} {content : List Value} (h : Unread ts) :
    s.Misread t (.block .square (ts.map .token ++ content)) where
  comma := rfl
  compound {inner vs rest next parts} hvs hread := by
    have herror : Selector.readSimple inner true
        (.block .square (ts.map .token ++ content) :: rest) = .error rest := by
      rw [Selector.readSimple, h content]
    rw [Step.readCompound_append hvs (by simp), Selector.readSimples_error herror] at hread
    cases hread

theorem exists_first_not {α : Type} {P : α → Prop} {xs : List α} (h : ¬ ∀ x ∈ xs, P x) :
    ∃ front x back, xs = front ++ x :: back ∧ (∀ y ∈ front, P y) ∧ ¬ P x := by
  induction xs with
  | nil => simp at h
  | cons x xs ih =>
    by_cases hx : P x
    · obtain ⟨front, y, back, rfl, hfront, hy⟩ := ih fun hxs => h (List.forall_mem_cons.2 ⟨hx, hxs⟩)
      exact ⟨x :: front, y, back, rfl, List.forall_mem_cons.2 ⟨hx, hfront⟩, hy⟩
    · exact ⟨[], x, xs, rfl, by simp, hx⟩

-- A step goes wrong at the colon of its name or at its first condition that is not contained.

theorem exists_misread_name {n : String} (htest : s.test = .name n) (hn : isName n.toList = true)
    (hcolon : ':' ∈ n.toList) (hfolds : Value.Folds ts vs) (more : List Char) :
    ∃ t v rest, s.Misread t v ∧
      Value.ofTokens (ts ++ Token.all (s.compoundText ++ more)) = vs ++ (t.values ++ v :: rest) := by
  obtain ⟨front, later, hne, hwords⟩ :=
    all_colon hn hcolon (s.conditions.flatMap Condition.selectorText ++ more)
  have htext : s.compoundText ++ more =
      n.toList ++ (s.conditions.flatMap Condition.selectorText ++ more) := by
    rw [Step.compoundText, htest, List.append_assoc]
    rfl
  obtain ⟨rest, hvalues⟩ := hfolds.exists_ofTokens
    (folds_plain [.ident front, .colon] (by simp)) (List.cons_ne_nil _ _) later
  refine ⟨_, _, rest, misread_colon htest hne, ?_⟩
  rw [htext, hwords]
  exact hvalues

theorem exists_misread_condition (h : s.Proper) (hlegible : s.test.Legible)
    (hbad : ¬ ∀ c ∈ s.conditions, c.Contained) (hfolds : Value.Folds ts vs)
    (hmore : ∀ c ∈ more.head?, c = ' ') : ∃ t v rest, s.Misread t v ∧
      Value.ofTokens (ts ++ Token.all (s.compoundText ++ more)) = vs ++ (t.values ++ v :: rest) := by
  obtain ⟨good, c, later, heq, hgood, hc⟩ := exists_first_not hbad
  have hproper : ∀ d ∈ good ++ c :: later, d.Proper := heq ▸ h.conditions
  rw [List.forall_mem_append, List.forall_mem_cons] at hproper
  obtain ⟨hproperGood, hproperBad, -⟩ := hproper
  have hwhole : ∀ d ∈ good, d.Whole := fun d hd => (hproperGood d hd).whole (hgood d hd)
  obtain ⟨inner, rest, hwords, hinner, hunread⟩ :=
    hproperBad.unreadable hc (later.flatMap Condition.selectorText ++ more)
  let t : Step := ⟨s.axis, s.test, good.map Condition.shown⟩
  have hall : Token.all (s.compoundText ++ more) =
      t.words ++ .opener .square :: (inner ++ rest) := by
    rw [Step.compoundText, List.append_assoc,
      (h.test.readable hlegible).all_eq (head_conditions hmore), heq, List.flatMap_append,
      List.flatMap_cons, List.append_assoc, List.append_assoc, all_conditions hwhole, hwords]
    rfl
  obtain ⟨content, rest, hvalues⟩ := (hfolds.append t.folds).exists_ofTokens_open .square hinner rest
  refine ⟨t, .block .square (inner.map .token ++ content), rest, misread_block hunread, ?_⟩
  rw [hall, ← List.append_assoc, hvalues, List.append_assoc]

theorem Step.Proper.exists_misread (h : s.Proper) (hbad : ¬ s.Contained)
    (hfolds : Value.Folds ts vs) (hmore : ∀ c ∈ more.head?, c = ' ') :
    ∃ t v rest, s.Misread t v ∧
      Value.ofTokens (ts ++ Token.all (s.compoundText ++ more)) = vs ++ (t.values ++ v :: rest) := by
  by_cases hlegible : s.test.Legible
  · exact exists_misread_condition h hlegible (fun hall => hbad ⟨hlegible, hall⟩) hfolds hmore
  · have hproper := h.test
    cases htest : s.test with
    | any =>
      rw [htest] at hlegible
      exact absurd trivial hlegible
    | name n =>
      rw [htest] at hlegible hproper
      exact exists_misread_name htest hproper (not_not.1 hlegible) hfolds more

theorem not_mirrors_first {t : Step} {v : Value} {rest : List Value} {c : Selector.Complex}
    (h : s.Misread t v) (hvalues : Value.ofTokens (Token.all cs) = t.values ++ v :: rest)
    (hread : Selector.read? cs = some ⟨[c]⟩) : ¬ Mirrors (s :: steps) c := by
  rintro ⟨-, hcompounds⟩
  have hcommas : ∀ w ∈ t.values ++ [v], w.isComma = false :=
    List.forall_mem_append.2 ⟨isComma_values t, List.forall_mem_singleton.2 h.comma⟩
  obtain ⟨inner, part, hcomplex⟩ := Selector.exists_of_read? hread (by simpa using hvalues) hcommas
  rw [List.append_assoc, List.singleton_append] at hcomplex
  obtain ⟨parts, next, last, hcompound, hchain⟩ := Selector.exists_of_readComplex hcomplex
  obtain ⟨more, hmore⟩ := Selector.readChain_compounds hchain
  rw [t.skipSpaces_eq] at hcompound
  rw [hmore] at hcompounds
  cases hcompounds with
  | cons hsays _ => exact h.compound (t.skipSpaces_eq _) hcompound hsays

theorem not_mirrors_later {first t : Step} {good : List Step} {v : Value} {rest : List Value}
    {c : Selector.Complex} (h : s.Misread t v)
    (hvalues : Value.ofTokens (Token.all cs) = first.shown.values ++
      (laterValues (good.map Step.shown) ++ (s.axis.values ++ (t.values ++ v :: rest))))
    (hread : Selector.read? cs = some ⟨[c]⟩) : ¬ Mirrors (first :: (good ++ s :: steps)) c := by
  rintro ⟨-, hcompounds⟩
  have hcommas : ∀ w ∈ first.shown.values ++ (laterValues (good.map Step.shown) ++
      (s.axis.values ++ (t.values ++ [v]))), w.isComma = false := by
    simp only [List.forall_mem_append, List.forall_mem_singleton]
    exact ⟨isComma_values _, isComma_steps _, isComma_axis _, isComma_values _, h.comma⟩
  obtain ⟨inner, part, hcomplex⟩ := Selector.exists_of_read? hread (by simpa using hvalues) hcommas
  simp only [List.append_assoc, List.singleton_append] at hcomplex
  obtain ⟨_, _, last, hfirst, hchain⟩ := Selector.exists_of_readComplex hcomplex
  rw [first.shown.skipSpaces_eq, Step.readCompound_eq (first.shown.skipSpaces_eq _)
    (ends_steps _ (ends_axis s.axis _))] at hfirst
  cases hfirst
  -- The chain is read up to the step, and there is something left to read.
  have hlonger : (good.map Step.shown).length < (laterValues (good.map Step.shown) ++
      (s.axis.values ++ (t.values ++ v :: part))).length := by
    have hlength := length_laterValues (good.map Step.shown)
    simp only [List.length_append, List.length_cons]
    omega
  obtain ⟨fuel, hfuel⟩ := Nat.exists_eq_add_of_lt hlonger
  rw [hfuel, Nat.add_assoc, readChain_steps _ (ends_axis s.axis _)] at hchain
  obtain ⟨next, hcombinator, hnext⟩ := readCombinator_axis s.axis t (v :: part)
  rw [Selector.readChain, hcombinator] at hchain
  obtain ⟨⟨parts, _⟩, hcompound, hchain⟩ := bind_eq_ok_iff.1 hchain
  obtain ⟨more, hmore⟩ := Selector.readChain_compounds hchain
  have hsays : List.Forall₂ Step.Says (s :: steps) (parts :: more) := by
    rw [hmore, Selector.Complex.compounds, chain_compounds, List.append_assoc] at hcompounds
    simpa [Selector.Complex.compounds] using List.forall₂_drop_append _ _ _ hcompounds
  cases hsays with
  | cons hsays _ => exact h.compound hnext hcompound hsays

-- A chain that mirrors a path has read all of it.
theorem contained_of_mirrors {c : Selector.Complex} (hproper : ∀ s ∈ path.steps, s.Proper)
    (hread : Selector.read? path.selectorText = some ⟨[c]⟩) (hmirrors : Mirrors path.steps c) :
    ∀ s ∈ path.steps, s.Contained := by
  by_contra hbad
  obtain ⟨good, s, later, hsteps, hgood, hs⟩ := exists_first_not hbad
  rw [hsteps, List.forall_mem_append, List.forall_mem_cons] at hproper
  rw [hsteps] at hmirrors
  obtain ⟨hproperGood, hproperBad, -⟩ := hproper
  cases good with
  | nil =>
    obtain ⟨t, v, rest, hmisread, hvalues⟩ := hproperBad.exists_misread hs .nil (head_laterText later)
    rw [List.nil_append, List.nil_append, ← selectorText_eq hsteps] at hvalues
    exact not_mirrors_first hmisread hvalues hread hmirrors
  | cons first good =>
    rw [List.cons_append] at hsteps hmirrors
    rw [List.forall_mem_cons] at hproperGood hgood
    have hwhole : ∀ u ∈ good, u.Whole := fun u hu => (hproperGood.2 u hu).whole (hgood.2 u hu)
    have hwords : Token.all path.selectorText = first.shown.words ++
        (laterWords (good.map Step.shown) ++ s.axis.words) ++
          Token.all (s.compoundText ++ laterText later) := by
      rw [selectorText_eq hsteps, (hproperGood.1.whole hgood.1).all_eq (head_laterText _),
        laterText_append, all_steps hwhole (head_laterText (s :: later)), laterText_cons,
        Step.all_axis hproperBad.test]
      simp
    have hfolds := first.shown.folds.append ((folds_steps (good.map Step.shown)).append s.axis.folds)
    obtain ⟨t, v, rest, hmisread, hvalues⟩ :=
      hproperBad.exists_misread hs hfolds (head_laterText later)
    rw [← hwords] at hvalues
    simp only [List.append_assoc] at hvalues
    exact not_mirrors_later hmisread hvalues hread hmirrors

end Misread

-- The selector of an accepted path is a chain that says what the steps say, and nothing else, exactly
-- when all of them are contained. Then it tests their values as well.
theorem read_mirrored_iff {text : List Char} (h : read text = .ok path) :
    ((∃ c, Selector.read? path.selectorText = some ⟨[c]⟩ ∧ Mirrors path.steps c) ↔
      ∀ s ∈ path.steps, s.Contained) ∧
    ∃ first later, path.steps = first :: later ∧ ((∀ s ∈ path.steps, s.Contained) →
      Selector.read? path.selectorText =
        some ⟨[chain (.compound first.shown.parts) (later.map Step.shown)]⟩) := by
  have hproper := proper_of_read h
  obtain ⟨first, later, hsteps⟩ := List.exists_cons_of_ne_nil (ne_nil_of_read h)
  have hchain (hcontained : ∀ s ∈ path.steps, s.Contained) : Selector.read? path.selectorText =
      some ⟨[chain (.compound first.shown.parts) (later.map Step.shown)]⟩ :=
    read?_whole hsteps fun s hs => (hproper s hs).whole (hcontained s hs)
  refine ⟨⟨?_, fun hcontained => ?_⟩, first, later, hsteps, hchain⟩
  · rintro ⟨c, hread, hmirrors⟩
    exact contained_of_mirrors hproper hread hmirrors
  · refine ⟨_, hchain hcontained, ?_⟩
    rw [hsteps]
    exact mirrors_chain first later

-- A value with the marks of a selector in it.
def quotedMarks : List Step :=
  [⟨.descendant, .name "ul", [.equal "title" "a\"], b:empty > c\\"]⟩, ⟨.child, .any, [.position 2]⟩]

theorem read_mirrored_quotedMarks :
    read "//ul[@title='a\"], b:empty > c\\']/*[2]".toList = .ok ⟨quotedMarks, .text⟩ ∧
      ∃ c, Selector.read? (selectorText ⟨quotedMarks, .text⟩) = some ⟨[c]⟩ ∧
        Mirrors quotedMarks c := by
  have hread : read "//ul[@title='a\"], b:empty > c\\']/*[2]".toList = .ok ⟨quotedMarks, .text⟩ :=
    read_written (List.cons_ne_nil _ _) (by decide) (by decide +kernel)
  exact ⟨hread, (read_mirrored_iff hread).1.2 (by decide)⟩

def emptyName : Path := ⟨[⟨.descendant, .name "a:empty", []⟩], .text⟩

-- The end of a name is read as a pseudo-class.
theorem not_mirrored_emptyName :
    read "//a:empty".toList = .ok emptyName ∧
      Selector.read? emptyName.selectorText = some ⟨[.compound [.name "a", .empty]]⟩ ∧
      ¬ ∃ c, Selector.read? emptyName.selectorText = some ⟨[c]⟩ ∧ Mirrors emptyName.steps c := by
  have hread : read "//a:empty".toList = .ok emptyName :=
    read_written (List.cons_ne_nil _ _) (by decide) (by decide)
  have hwords : Token.all emptyName.selectorText = [.ident "a", .colon, .ident "empty"] := by
    decide +kernel
  have hsimples (inner : Inner) : Selector.readSimples inner true
      [.token .colon, .token (.ident "empty")] = .ok ([.empty], []) := by
    rw [Selector.readSimples_some rfl, Selector.readSimples_none rfl]
    rfl
  have hcompound (inner : Inner) : Selector.readCompound inner true
      [.token (.ident "a"), .token .colon, .token (.ident "empty")] =
        .ok ([.name "a", .empty], []) :=
    bind_eq_ok_iff.2 ⟨([.name "a"], _), rfl, bind_eq_ok_iff.2 ⟨_, hsimples inner, rfl⟩⟩
  have hcomplex (inner : Inner) : Selector.readComplex inner Selector.topMode
      [.token (.ident "a"), .token .colon, .token (.ident "empty")] =
        .ok (.compound [.name "a", .empty]) := by
    simp only [Selector.readComplex, Selector.topMode, Bool.false_eq_true, if_false]
    exact bind_eq_ok_iff.2 ⟨_, hcompound inner, rfl⟩
  have hselector : Selector.read? emptyName.selectorText =
      some ⟨[.compound [.name "a", .empty]]⟩ := by
    have hvalues : Selector.splitAtCommas (Value.ofTokens [.ident "a", .colon, .ident "empty"]) =
        [[.token (.ident "a"), .token .colon, .token (.ident "empty")]] := rfl
    rw [Selector.read?, hwords, Selector.readList, hvalues, List.mapM_cons, hcomplex]
    rfl
  refine ⟨hread, hselector, ?_⟩
  rintro ⟨c, hc, hmirrors⟩
  rw [hselector] at hc
  cases hc
  cases hmirrors.compounds with
  | cons hsays _ =>
    generalize hparts : [Simple.name "a", Simple.empty] = parts at hsays
    cases hsays
    simp [NameTest.simple] at hparts

end Path

end Stepwise
