import Stepwise.Proofs.Path.Acceptance

namespace Stepwise

namespace Text

variable {c : Char} {cs rest : List Char}

theorem isBlank_getLast?_append (h : ∀ c ∈ cs.getLast?, isBlank c = false)
    (h' : ∀ c ∈ rest.getLast?, isBlank c = false) :
    ∀ c ∈ (cs ++ rest).getLast?, isBlank c = false := by
  intro c hc
  rw [List.getLast?_append] at hc
  rcases e : rest.getLast? with - | d
  · rw [e] at hc
    exact h c hc
  · rw [e] at hc
    cases hc
    exact h' c (by rw [e]; rfl)

end Text

namespace Path

variable {cs body rest text more : List Char} {conditions : List Condition} {depth : Nat} {s : Step}
  {ls : List Literal} {steps : List Step} {ending : Ending} {target : Target}

theorem cutStep_forall (h : ∀ c ∈ cs, isQuote c = false ∧ c ≠ '[' ∧ c ≠ ']' ∧ c ≠ '/')
    (rest : List Char) :
    cutStep depth none (cs ++ rest) = (cutStep depth none rest).map (ahead cs) := by
  induction cs with
  | nil =>
    rw [List.nil_append]
    rcases cutStep depth none rest with - | p <;> rfl
  | cons c cs ih =>
    rw [List.forall_mem_cons] at h
    obtain ⟨⟨hquote, hopen, hclose, hslash⟩, hcs⟩ := h
    rw [List.cons_append, cutStep_plain hquote hopen hclose fun hand => hslash hand.1, ih hcs,
      map_ahead_map]
    rfl

namespace Conditions.Worded

theorem head (h : Worded conditions ls text) : ∀ c ∈ text.head?, c = '[' := by
  cases h with
  | nil => simp
  | cons => simp

theorem last (h : Worded conditions ls text) : ∀ c ∈ text.getLast?, Text.isBlank c = false := by
  induction h with
  | nil => simp
  | cons _ _ _ _ ih =>
    rw [List.append_cons]
    refine Text.isBlank_getLast?_append (fun c hc => ?_) ih
    rw [List.getLast?_concat] at hc
    cases hc
    decide

theorem read_eq (h : Worded conditions ls text) (hclosed : ∀ l ∈ ls, l.Closed)
    (step : List Char) : readConditions step text = .ok conditions := by
  induction h with
  | nil => rw [readConditions]
  | @cons c conditions ls ls' front inner back text hfront hback hinner _ ih =>
    obtain ⟨hls, hls'⟩ := List.forall_mem_append.1 hclosed
    have hcut := cutCondition?_sealed (hinner.sealed_padded hfront hback hls) text
    have hquote : ∀ l ∈ ls, isQuote l.quote = true := fun l hl => (hls l hl).isQuote
    rw [List.cons_append, readConditions]
    split
    · next e =>
      rw [hcut] at e
      cases e
    · next e =>
      rw [hcut] at e
      cases e
      rw [Text.trim_pad hfront hback, hinner.trim_eq hquote, hinner.read_eq hquote, ih hls']
      rfl

theorem cut_eq (h : Worded conditions ls text) (hclosed : ∀ l ∈ ls, l.Closed)
    (rest : List Char) :
    cutStep depth none (text ++ rest) = (cutStep depth none rest).map (ahead text) := by
  induction h with
  | nil =>
    rw [List.nil_append]
    rcases cutStep depth none rest with - | p <;> rfl
  | @cons c conditions ls ls' front inner back text hfront hback hinner _ ih =>
    obtain ⟨hls, hls'⟩ := List.forall_mem_append.1 hclosed
    have htext : '[' :: (front ++ inner ++ back) ++ ']' :: text ++ rest =
        '[' :: (front ++ inner ++ back) ++ ']' :: (text ++ rest) := by simp
    rw [htext, cutStep_bracketed (hinner.sealed_padded hfront hback hls), ih hls', map_ahead_map]
    simp

end Conditions.Worded

namespace NameTest.Proper

variable {test : NameTest}

theorem written_ne_nil (h : test.Proper) : test.written ≠ [] := by
  cases test with
  | any => simp [written, selectorText]
  | name n => exact ne_nil_of_isName h

theorem written_cases (h : test.Proper) {c : Char} (hc : c ∈ test.written) :
    c = '*' ∨ isNamePart c = true := by
  cases test with
  | any => exact .inl (List.mem_singleton.1 hc)
  | name n => exact .inr (isNamePart_of_mem h hc)

theorem written_plain (h : test.Proper) :
    ∀ c ∈ test.written, isQuote c = false ∧ c ≠ '[' ∧ c ≠ ']' ∧ c ≠ '/' := by
  intro c hc
  rcases h.written_cases hc with rfl | hpart
  · decide
  · obtain ⟨hquote, hopen, hclose⟩ := sealed_char_of_isNamePart hpart
    refine ⟨hquote, hopen, hclose, ?_⟩
    rintro rfl
    cases hpart

theorem written_last (h : test.Proper) : ∀ c ∈ test.written.getLast?, Text.isBlank c = false := by
  intro c hc
  rcases h.written_cases (List.mem_of_mem_getLast? hc) with rfl | hpart
  · decide
  · exact isBlank_of_isNamePart hpart

end NameTest.Proper

namespace Step.Worded

theorem cut_eq (h : s.Worded ls body) (hclosed : ∀ l ∈ ls, l.Closed)
    (hrest : ∀ c ∈ rest.head?, c = '/') : cutStep 0 none (body ++ rest) = .ok (body, rest) := by
  obtain @⟨text, htest, htext⟩ := h
  rw [List.append_assoc, cutStep_forall htest.written_plain, htext.cut_eq hclosed, cutStep_end hrest,
    map_ahead_map]
  simp [ahead, Except.map]

theorem head (h : s.Worded ls body) : ∃ c ∈ body.head?, c = '*' ∨ isNamePart c = true := by
  obtain @⟨text, htest, htext⟩ := h
  obtain ⟨c, front, hwritten⟩ := List.exists_cons_of_ne_nil htest.written_ne_nil
  exact ⟨c, by simp [hwritten], htest.written_cases (by simp [hwritten])⟩

theorem last (h : s.Worded ls body) : ∀ c ∈ body.getLast?, Text.isBlank c = false := by
  obtain ⟨htest, htext⟩ := h
  exact Text.isBlank_getLast?_append htest.written_last htext.last

-- The name of an element ends before the first bracket.
theorem takeWhile_eq (htest : s.test.Proper) (htext : Conditions.Worded s.conditions ls text) :
    (s.test.written ++ text).takeWhile (· ≠ '[') = s.test.written ∧
      (s.test.written ++ text).dropWhile (· ≠ '[') = text := by
  have hname : ∀ c ∈ s.test.written, decide (c ≠ '[') = true := fun c hc =>
    decide_eq_true (htest.written_plain c hc).2.1
  rw [List.takeWhile_append_of_pos hname, List.dropWhile_append_of_pos hname]
  cases text with
  | nil => simp
  | cons c text =>
    obtain rfl := htext.head c (by simp)
    simp

theorem read_eq (h : s.Worded ls body) (hclosed : ∀ l ∈ ls, l.Closed) :
    readStep s.axis body = .ok s := by
  obtain @⟨text, htest, htext⟩ := h
  obtain ⟨hname, hconditions⟩ := takeWhile_eq htest htext
  rw [readStep, hname, hconditions, htext.read_eq hclosed]
  obtain ⟨axis, test, conditions⟩ := s
  cases test with
  | any => rfl
  | name n =>
    have hn : isName n.toList = true := htest
    have hstar : n.toList ≠ ['*'] := by
      intro hstar
      rw [hstar] at hn
      cases hn
    simp only [NameTest.written, NameTest.selectorText, if_neg hstar, if_pos hn, String.ofList_toList]
    rfl

-- An element step is told from the steps that only say what to take.
theorem target?_eq (h : s.Worded ls body) : target? body = none := by
  have hword : body ≠ textStep := by
    obtain @⟨text, htest, htext⟩ := h
    intro hbody
    have hname := (takeWhile_eq htest htext).1
    rw [hbody] at hname
    have hparen := htest.written_cases (c := '(') (by rw [← hname]; decide)
    exact absurd hparen (by decide)
  obtain ⟨c, hc, hcase⟩ := h.head
  obtain ⟨rest, rfl⟩ := List.head?_eq_some_iff.1 hc
  have hat : c ≠ '@' := by
    rintro rfl
    exact absurd hcase (by decide)
  simp only [target?, if_neg hword]
  split
  · next e => exact absurd (List.cons.inj e).1 hat
  · rfl

end Step.Worded

theorem axisOf_written (axis : Axis) (h : ∀ c ∈ cs.head?, c ≠ '/') :
    ∃ rest, axis.written ++ cs = '/' :: rest ∧ axisOf rest = (axis, cs) := by
  cases axis with
  | descendant => exact ⟨'/' :: cs, rfl, rfl⟩
  | child =>
    refine ⟨cs, rfl, ?_⟩
    unfold axisOf
    split
    · exact absurd rfl (h '/' (by simp))
    · rfl

-- One step of the reader, once the axis and the end of the step are known.
theorem readSteps_of_cutStep {axis : Axis} {step : List Char} (haxis : axisOf rest = (axis, cs))
    (hcut : cutStep 0 none cs = .ok (step, more)) :
    readSteps ('/' :: rest) =
      match target? step with
      | some target =>
        if more ≠ [] then .error (.notLast (String.ofList step)) else target.map fun t => ([], t)
      | none => do
        let s ← readStep axis step
        let (steps, target) ← readSteps more
        return (s :: steps, target) := by
  obtain rfl : (axisOf rest).1 = axis := by rw [haxis]
  have hsecond : cutStep 0 none (axisOf rest).2 = .ok (step, more) := by rw [haxis, hcut]
  rw [readSteps]
  split
  · next e => rw [hsecond] at e; cases e
  · next e =>
    rw [hsecond] at e
    cases e
    rfl

theorem readSteps_step (hbody : s.Worded ls body) (hclosed : ∀ l ∈ ls, l.Closed)
    (hmore : ∀ c ∈ more.head?, c = '/') (hread : readSteps more = .ok (steps, target)) :
    readSteps (s.axis.written ++ body ++ more) = .ok (s :: steps, target) := by
  obtain ⟨c, hc, hcase⟩ := hbody.head
  have hslash : ∀ d ∈ (body ++ more).head?, d ≠ '/' := by
    intro d hd
    rw [List.head?_append, hc] at hd
    cases hd
    rintro rfl
    exact absurd hcase (by decide)
  obtain ⟨rest, hrest, haxis⟩ := axisOf_written s.axis hslash
  rw [List.append_assoc, hrest, readSteps_of_cutStep haxis (hbody.cut_eq hclosed hmore),
    hbody.target?_eq, hbody.read_eq hclosed, hread]
  rfl

theorem readSteps_target {axis : Axis} (hbody : target? body = some (.ok target))
    (hplain : ∀ c ∈ body, isQuote c = false ∧ c ≠ '[' ∧ c ≠ ']' ∧ c ≠ '/') :
    readSteps (axis.written ++ body) = .ok ([], target) := by
  have hslash : ∀ c ∈ body.head?, c ≠ '/' := fun c hc =>
    (hplain c (List.mem_of_mem_head? hc)).2.2.2
  obtain ⟨rest, hrest, haxis⟩ := axisOf_written axis hslash
  have hcut : cutStep 0 none body = .ok (body, []) := by
    have hall : cutStep 0 none (body ++ []) = _ := cutStep_forall hplain []
    rw [List.append_nil] at hall
    rw [hall]
    simp [cutStep, ahead, Except.map]
  rw [hrest, readSteps_of_cutStep haxis hcut, hbody]
  rfl

namespace Ending.Proper

theorem read_eq (h : ending.Proper) : readSteps ending.written = .ok ([], ending.target) := by
  cases ending with
  | element => rw [written, readSteps]; rfl
  | text axis =>
    have htext : target? "text()".toList = some (.ok .text) := by simp [target?, textStep]
    exact readSteps_target htext (by simp [isQuote])
  | attr axis a =>
    have hattr : target? ('@' :: a.toList) = some (.ok (.attr a)) := by
      simp [target?, textStep, attributeName_of_isName h, Except.map]
    refine readSteps_target hattr fun c hc => ?_
    rcases List.mem_cons.1 hc with rfl | hc
    · decide
    · have hname : (NameTest.name a).Proper := h
      exact hname.written_plain c hc

theorem last (h : ending.Proper) : ∀ c ∈ ending.written.getLast?, Text.isBlank c = false := by
  have haxis (axis : Axis) : ∀ c ∈ axis.written.getLast?, Text.isBlank c = false := by
    cases axis <;> simp [Axis.written, Text.isBlank]
  cases ending with
  | element => simp [written]
  | text axis => exact Text.isBlank_getLast?_append (haxis axis) (by simp [Text.isBlank])
  | attr axis a =>
    refine Text.isBlank_getLast?_append (haxis axis) fun c hc => ?_
    rcases List.mem_cons.1 (List.mem_of_mem_getLast? hc) with rfl | hc
    · decide
    · exact isBlank_of_isNamePart (isNamePart_of_mem h hc)

end Ending.Proper

theorem Ending.written_head (ending : Ending) : ∀ c ∈ ending.written.head?, c = '/' := by
  have haxis (axis : Axis) (cs : List Char) : ∀ c ∈ (axis.written ++ cs).head?, c = '/' := by
    cases axis <;> simp [Axis.written]
  cases ending with
  | element => simp [written]
  | text axis => exact haxis axis _
  | attr axis a => exact haxis axis _

namespace Steps.Worded

theorem head (h : Worded ending steps ls text) : ∀ c ∈ text.head?, c = '/' := by
  cases h with
  | ending _ => exact ending.written_head
  | @step s => cases s.axis <;> simp [Axis.written]

theorem last (h : Worded ending steps ls text) : ∀ c ∈ text.getLast?, Text.isBlank c = false := by
  induction h with
  | ending hending => exact hending.last
  | @step s _ _ _ _ _ hbody _ ih =>
    have haxis : ∀ c ∈ s.axis.written.getLast?, Text.isBlank c = false := by
      cases s.axis <;> simp [Axis.written, Text.isBlank]
    exact Text.isBlank_getLast?_append (Text.isBlank_getLast?_append haxis hbody.last) ih

theorem readSteps_eq (h : Worded ending steps ls text) (hclosed : ∀ l ∈ ls, l.Closed) :
    readSteps text = .ok (steps, ending.target) := by
  induction h with
  | ending hending => exact hending.read_eq
  | step hbody htext ih =>
    obtain ⟨hls, hls'⟩ := List.forall_mem_append.1 hclosed
    exact readSteps_step hbody hls htext.head (ih hls')

theorem head? (h : Worded ending steps ls text) (hne : steps ≠ []) : text.head? = some '/' := by
  cases h with
  | ending _ => exact absurd rfl hne
  | @step s => cases s.axis <;> simp [Axis.written]

theorem trim_eq (h : Worded ending steps ls text) (hne : steps ≠ []) : Text.trim text = text := by
  refine Text.trim_eq_self (fun c hc => ?_) h.last
  rw [h.head? hne] at hc
  cases hc
  decide

end Steps.Worded

-- A path that is worded after the grammar is read, as the path that it words.
theorem Worded.read_eq {path : Path} (h : Worded path ls text) (hclosed : ∀ l ∈ ls, l.Closed) :
    read text = .ok path := by
  obtain ⟨steps, target⟩ := path
  obtain @⟨ending, front, body, back, hfront, hback, hne, htarget, hbody⟩ := h
  dsimp only at hne htarget hbody
  have htrim : Text.trim (front ++ body ++ back) = body := by
    rw [Text.trim_pad hfront hback, hbody.trim_eq hne]
  simp only [read, htrim, hbody.head? hne, hbody.readSteps_eq hclosed, ne_eq, not_true_eq_false, if_false]
  refine bind_eq_ok_iff.2 ⟨(steps, ending.target), rfl, ?_⟩
  rw [if_neg hne, ← htarget]
  rfl

section Spelled

-- The plain spelling of a path is one of its wordings. It has no white space and no quoted value
-- that holds its own quote.

theorem Condition.Spelled.worded {condition : Condition} (h : condition.Spelled body) :
    ∃ ls, condition.Worded ls body ∧ ∀ l ∈ ls, l.Proper := by
  cases h with
  | @position n hlow hhigh =>
    refine ⟨[], ?_, by simp⟩
    rw [← List.nil_append (Nat.toDigits 10 n)]
    exact .position (.inl rfl) Nat.toDigits_ne_nil (Text.isDigit_toDigits n)
      Nat.ofDigitChars_ten_toDigits hlow hhigh
  | present ha => exact ⟨[], .present ha .nil, by simp⟩
  | @equal a v q ha hq hv =>
    refine ⟨[⟨q, v.toList⟩], ?_, by simpa using ⟨hq, hv⟩⟩
    have hworded := Worded.equal (l := ⟨q, v.toList⟩) ha .nil .nil .nil
    rw [String.ofList_toList] at hworded
    simpa [Literal.written] using hworded
  | @part a v q ha hq hv =>
    refine ⟨[⟨q, v.toList⟩], ?_, by simpa using ⟨hq, hv⟩⟩
    have hworded := Worded.part (l := ⟨q, v.toList⟩) ha .nil .nil .nil .nil
    rw [String.ofList_toList] at hworded
    simpa [Literal.written] using hworded

theorem Bracketed.worded (h : Bracketed conditions text) :
    ∃ ls, Conditions.Worded conditions ls text ∧ ∀ l ∈ ls, l.Proper := by
  induction h with
  | nil => exact ⟨[], .nil, by simp⟩
  | cons hinner _ ih =>
    obtain ⟨ls, hworded, hproper⟩ := hinner.worded
    obtain ⟨ls', hworded', hproper'⟩ := ih
    refine ⟨ls ++ ls', ?_, List.forall_mem_append.2 ⟨hproper, hproper'⟩⟩
    simpa using Conditions.Worded.cons .nil .nil hworded hworded'

theorem Spelled.worded (h : Spelled ending steps text) :
    ∃ ls, Steps.Worded ending steps ls text ∧ ∀ l ∈ ls, l.Proper := by
  induction h with
  | ending hending => exact ⟨[], .ending hending, by simp⟩
  | step hbody _ ih =>
    obtain ⟨htest, htext⟩ := hbody
    obtain ⟨ls, hworded, hproper⟩ := htext.worded
    obtain ⟨ls', hworded', hproper'⟩ := ih
    exact ⟨ls ++ ls', .step (.intro htest hworded) hworded',
      List.forall_mem_append.2 ⟨hproper, hproper'⟩⟩

-- A path that is spelled after the grammar is read as the steps that it spells.
theorem Spelled.read_eq (h : Spelled ending steps text) (hne : steps ≠ []) :
    read text = .ok ⟨steps, ending.target⟩ := by
  obtain ⟨ls, hworded, hproper⟩ := h.worded
  have hpath : Worded ⟨steps, ending.target⟩ ls ([] ++ text ++ []) := .intro .nil .nil hne rfl hworded
  rw [List.nil_append, List.append_nil] at hpath
  exact hpath.read_eq fun l hl => (hproper l hl).closed

end Spelled

end Path

end Stepwise
