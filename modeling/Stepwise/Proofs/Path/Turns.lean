import Mathlib.Logic.Relation
import Stepwise.Proofs.Path.Scan
import Stepwise.Proofs.Path.Translation

namespace Stepwise.Path

open Relation (ReflTransGen)
open Text (byteCount)

variable {depth deep : Nat} {quote q : Option Char} {cs step inner more rest text : List Char}
  {conditions : List Condition} {ls : List Literal} {groups : List (List Char)} {axis : Axis}
  {s : Step}

section Turns

-- One turn of the loop over the conditions of a step: a pair of brackets, whatever they hold.
inductive ConditionTurn : List Char → List Char → Prop
  | intro {rest inner more : List Char} (hcut : cutCondition? none rest = some (inner, more)) :
    ConditionTurn ('[' :: rest) more

-- One turn of the loop over the steps of a path: a step that is read.
inductive StepTurn : List Char → List Char → Prop
  | intro {rest step more : List Char} {s : Step}
    (hcut : cutStep 0 none (axisOf rest).2 = .ok (step, more)) (htarget : target? step = none)
    (hstep : readStep (axisOf rest).1 step = .ok s) : StepTurn ('/' :: rest) more

-- A turn takes at least the character it begins with, and leaves the rest of the text.

theorem ConditionTurn.suffix (h : ConditionTurn cs more) :
    more <:+ cs ∧ more.length < cs.length := by
  cases h with
  | @intro rest inner _ hcut =>
    have hlength := length_of_cutCondition? hcut
    obtain ⟨hrest, -⟩ := level_of_cutCondition? hcut
    have hmore : more <:+ rest := by
      rw [hrest, List.append_cons]
      exact List.suffix_append _ _
    exact ⟨hmore.trans (List.suffix_cons '[' rest), by rw [List.length_cons]; omega⟩

theorem axisOf_suffix (cs : List Char) : (axisOf cs).2 <:+ cs := by
  unfold axisOf
  split
  · exact List.suffix_cons '/' _
  · exact List.suffix_refl _

theorem StepTurn.suffix (h : StepTurn cs more) : more <:+ cs ∧ more.length < cs.length := by
  cases h with
  | @intro rest step _ s hcut =>
    obtain ⟨hrest, -⟩ := level_of_cutStep hcut
    have hmore : more <:+ rest := by
      have hcut : more <:+ (axisOf rest).2 := by
        rw [hrest]
        exact List.suffix_append _ _
      exact hcut.trans (axisOf_suffix rest)
    have hle := hmore.length_le
    exact ⟨hmore.trans (List.suffix_cons '/' rest), by rw [List.length_cons]; omega⟩

end Turns

section Balance

-- A text that closes the brackets which are open before it, as many as there are, and its own.
def Closes (cs : List Char) : Prop := ∃ depth, level (depth, none) cs = some (0, none)

-- Where no closing bracket stands outside quotes, the depth does not fall.
theorem le_of_cutCondition? (hcut : cutCondition? quote cs = none)
    (hlevel : level (depth, quote) cs = some (deep, q)) : depth ≤ deep := by
  induction cs generalizing depth quote with
  | nil =>
    cases hlevel
    exact Nat.le_refl _
  | cons c cs ih =>
    have onward {depth' : Nat} {quote' : Option Char} (hle : depth ≤ depth')
        (hstep : advance (depth, quote) c = some (depth', quote'))
        (hcut : (cutCondition? quote' cs >>= fun p => pure (c :: p.1, p.2)) = none) :
        depth ≤ deep := by
      have hnone : cutCondition? quote' cs = none := by
        cases hrest : cutCondition? quote' cs with
        | none => rfl
        | some p =>
          rw [hrest] at hcut
          cases hcut
      rw [level_cons hstep] at hlevel
      exact hle.trans (ih hnone hlevel)
    simp only [cutCondition?] at hcut
    split at hcut
    · exact onward (Nat.le_refl _) rfl hcut
    · split at hcut
      · next hquote => exact onward (Nat.le_refl _) (by simp [advance, hquote]) hcut
      · next hquote =>
        split at hcut
        · cases hcut
        · next hclose =>
          by_cases hopen : c = '['
          · exact onward (Nat.le_succ _) (by simp [advance, hopen, isQuote]) hcut
          · exact onward (Nat.le_refl _) (by simp [advance, hquote, hopen, hclose]) hcut

theorem Closes.exists_cut (h : Closes ('[' :: rest)) :
    ∃ inner more, cutCondition? none rest = some (inner, more) := by
  obtain ⟨depth, hlevel⟩ := h
  have hopen : advance (depth, none) '[' = some (depth + 1, none) := rfl
  rw [level_cons hopen] at hlevel
  cases hcut : cutCondition? none rest with
  | none =>
    have hle := le_of_cutCondition? hcut hlevel
    omega
  | some p => exact ⟨p.1, p.2, rfl⟩

-- A pair of brackets may open more than it closes. The rest has to close these too.
theorem Closes.turn (h : Closes cs) (hturn : ConditionTurn cs more) : Closes more := by
  obtain ⟨depth, hlevel⟩ := h
  cases hturn with
  | intro hcut =>
    obtain ⟨rfl, opened, hopened, -⟩ := level_of_cutCondition? hcut
    have hinner := hopened (depth + 1)
    rw [Nat.add_right_comm] at hinner
    rw [← List.cons_append, level_bracketed hinner] at hlevel
    exact ⟨depth + opened, hlevel⟩

theorem Closes.turns (h : Closes cs) (hturns : ReflTransGen ConditionTurn cs more) :
    Closes more := by
  induction hturns with
  | refl => exact h
  | tail _ hturn ih => exact ih.turn hturn

-- So the loop over the conditions of a step that is cut off finds each of its brackets closed.
theorem exists_cut_of_cutStep {test : NameTest} (hcut : cutStep 0 none cs = .ok (step, more))
    (htest : test.Proper) (htake : step.takeWhile (· ≠ '[') = test.written)
    (hturns : ReflTransGen ConditionTurn (step.dropWhile (· ≠ '[')) ('[' :: rest)) :
    ∃ inner later, cutCondition? none rest = some (inner, later) := by
  obtain ⟨-, hlevel⟩ := level_of_cutStep hcut
  have hcloses : Closes (step.dropWhile (· ≠ '[')) :=
    ⟨0, (level_dropWhile htest htake).trans hlevel⟩
  exact (hcloses.turns hturns).exists_cut

end Balance

section Unterminated

-- No other part of the reader speaks of a condition that is not closed.

theorem attributeName_ne_unterminated (cs : List Char) :
    attributeName cs ≠ .error .unterminated := by
  unfold attributeName
  split <;> simp

theorem unquote_ne_unterminated (cs : List Char) : unquote cs ≠ .error .unterminated := by
  unfold unquote
  split
  · split <;> simp
  · simp

theorem readContains_ne_unterminated (cs : List Char) :
    readContains cs ≠ .error .unterminated := by
  intro h
  unfold readContains at h
  split at h
  · split at h
    · rcases bind_eq_error_iff.1 h with hvalue | ⟨v, -, h⟩
      · exact unquote_ne_unterminated _ hvalue
      · rcases bind_eq_error_iff.1 h with hname | ⟨a, -, hdone⟩
        · exact attributeName_ne_unterminated _ hname
        · cases hdone
    · cases h
  · cases h

theorem readAttribute_ne_unterminated (cs : List Char) :
    readAttribute cs ≠ .error .unterminated := by
  intro h
  unfold readAttribute at h
  split at h
  · split at h <;> cases h
  · rcases bind_eq_error_iff.1 h with hname | ⟨a, -, h⟩
    · exact attributeName_ne_unterminated _ hname
    · rcases bind_eq_error_iff.1 h with hvalue | ⟨v, -, hdone⟩
      · exact unquote_ne_unterminated _ hvalue
      · cases hdone

theorem readCondition_ne_unterminated (cs : List Char) :
    readCondition cs ≠ .error .unterminated := by
  unfold readCondition
  split
  · simp
  · simp
  · split
    · exact readContains_ne_unterminated _
    · split
      · exact readAttribute_ne_unterminated _
      · simp

theorem exists_of_readConditions (h : readConditions step cs = .error .unterminated) :
    ∃ rest, ReflTransGen ConditionTurn cs ('[' :: rest) ∧ cutCondition? none rest = none := by
  fun_induction readConditions step cs with
  | case1 => cases h
  | case2 rest hcut => exact ⟨rest, .refl, hcut⟩
  | case3 rest inner more hcut ih =>
    rcases bind_eq_error_iff.1 h with hcondition | ⟨c, -, hmore⟩
    · exact absurd hcondition (readCondition_ne_unterminated _)
    · rcases bind_eq_error_iff.1 hmore with hconditions | ⟨conditions, -, hdone⟩
      · obtain ⟨later, hturns, hlater⟩ := ih hconditions
        exact ⟨later, .head (.intro hcut) hturns, hlater⟩
      · cases hdone
  | case4 => cases h

theorem readStep_ne_unterminated (hcut : cutStep 0 none cs = .ok (step, more)) (axis : Axis) :
    readStep axis step ≠ .error .unterminated := by
  intro h
  rcases readStep_cases step with ⟨test, hproper, htake, hstep⟩ | ⟨-, herror⟩
  · rw [hstep, map_eq_error_iff] at h
    obtain ⟨rest, hturns, hnone⟩ := exists_of_readConditions h
    obtain ⟨inner, later, hsome⟩ := exists_cut_of_cutStep hcut hproper htake hturns
    rw [hnone] at hsome
    cases hsome
  · rw [herror] at h
    cases h

theorem target?_ne_unterminated {target : Except Fault Target} (h : target? step = some target) :
    target ≠ .error .unterminated := by
  unfold target? at h
  split at h
  · cases h
    simp
  · split at h
    · cases h
      rw [ne_eq, map_eq_error_iff]
      exact attributeName_ne_unterminated _
    · cases h

-- A path is not terminated just where one of its steps cannot be cut off.

theorem exists_of_readSteps (h : readSteps cs = .error .unterminated) :
    ∃ rest, ReflTransGen StepTurn cs ('/' :: rest) ∧
      cutStep 0 none (axisOf rest).2 = .error .unterminated := by
  fun_induction readSteps cs with
  | case1 => cases h
  | case2 rest e hcut =>
    cases h
    exact ⟨rest, .refl, hcut⟩
  | case3 => cases h
  | case4 rest step more hcut target htarget hmore =>
    exact absurd (map_eq_error_iff.1 h) (target?_ne_unterminated htarget)
  | case5 rest step more hcut htarget ih =>
    rcases bind_eq_error_iff.1 h with hstep | ⟨s, hstep, hlater⟩
    · exact absurd hstep (readStep_ne_unterminated hcut _)
    · rcases bind_eq_error_iff.1 hlater with hsteps | ⟨p, -, hdone⟩
      · obtain ⟨later, hturns, hlast⟩ := ih hsteps
        exact ⟨later, .head (.intro hcut htarget hstep) hturns, hlast⟩
      · cases hdone
  | case6 => cases h

theorem readSteps_of_cutStep_error {e : Fault}
    (hcut : cutStep 0 none (axisOf rest).2 = .error e) : readSteps ('/' :: rest) = .error e := by
  rw [readSteps]
  split
  · next hsame =>
    rw [hcut] at hsame
    cases hsame
    rfl
  · next hsame =>
    rw [hcut] at hsame
    cases hsame

theorem readSteps_eq_unterminated_iff : readSteps cs = .error .unterminated ↔
    ∃ rest, ReflTransGen StepTurn cs ('/' :: rest) ∧
      cutStep 0 none (axisOf rest).2 = .error .unterminated := by
  refine ⟨exists_of_readSteps, ?_⟩
  rintro ⟨rest, hturns, hcut⟩
  induction hturns using ReflTransGen.head_induction_on with
  | refl => exact readSteps_of_cutStep_error hcut
  | head hturn _ ih =>
    cases hturn with
    | @intro rest step more s hfirst htarget hstep =>
      have haxis : axisOf rest = ((axisOf rest).1, (axisOf rest).2) := rfl
      rw [readSteps_of_cutStep haxis hfirst, htarget]
      exact bind_eq_error_iff.2 (.inr ⟨s, hstep, bind_eq_error_iff.2 (.inl ih)⟩)

theorem read_eq_unterminated_iff : read text = .error .unterminated ↔
    ∃ rest, ReflTransGen StepTurn (Text.trim text) ('/' :: rest) ∧
      cutStep 0 none (axisOf rest).2 = .error .unterminated := by
  rw [← readSteps_eq_unterminated_iff]
  unfold read
  dsimp only
  split
  · next hroot =>
    refine ⟨nofun, fun h => ?_⟩
    obtain ⟨rest, hturns, -⟩ := exists_of_readSteps h
    have hhead : (Text.trim text).head? = some '/' := by
      rcases hturns.cases_head with heq | ⟨more, hturn, -⟩
      · rw [heq]
        rfl
      · generalize Text.trim text = cs at hturn
        cases hturn
        rfl
    exact absurd hhead hroot
  · constructor
    · intro h
      rcases bind_eq_error_iff.1 h with hsteps | ⟨p, -, hdone⟩
      · exact hsteps
      · split at hdone <;> cases hdone
    · intro h
      exact bind_eq_error_iff.2 (.inl h)

end Unterminated

section Groups

def inBrackets (groups : List (List Char)) : List Char :=
  groups.flatMap fun inner => '[' :: inner ++ [']']

theorem inBrackets_cons (inner : List Char) (groups : List (List Char)) (rest : List Char) :
    inBrackets (inner :: groups) ++ rest = '[' :: inner ++ ']' :: (inBrackets groups ++ rest) := by
  simp [inBrackets]

-- A name and conditions in brackets, with no bracket outside quotes in any of them.
def Grouped (name : NameTest) (step : List Char) : Prop :=
  ∃ groups, (∀ inner ∈ groups, Sealed inner) ∧ step = name.written ++ inBrackets groups

theorem Conditions.Worded.exists_groups (h : Worded conditions ls cs)
    (hclosed : ∀ l ∈ ls, l.Closed) :
    ∃ groups, (∀ inner ∈ groups, Sealed inner) ∧ cs = inBrackets groups := by
  induction h with
  | nil => exact ⟨[], by simp, rfl⟩
  | @cons c conditions ls ls' front inner back text hfront hback hinner _ ih =>
    obtain ⟨hls, hls'⟩ := List.forall_mem_append.1 hclosed
    obtain ⟨groups, hgroups, rfl⟩ := ih hls'
    have hsealed := hinner.sealed_padded hfront hback hls
    refine ⟨(front ++ inner ++ back) :: groups, List.forall_mem_cons.2 ⟨hsealed, hgroups⟩, ?_⟩
    have htext := inBrackets_cons (front ++ inner ++ back) groups []
    rw [List.append_nil, List.append_nil] at htext
    exact htext.symm

theorem cutStep_inBrackets (hgroups : ∀ inner ∈ groups, Sealed inner) (rest : List Char) :
    cutStep depth none (inBrackets groups ++ rest) =
      (cutStep depth none rest).map (ahead (inBrackets groups)) := by
  induction groups with
  | nil =>
    rw [inBrackets, List.flatMap_nil, List.nil_append]
    rcases cutStep depth none rest with - | p <;> rfl
  | cons inner groups ih =>
    rw [List.forall_mem_cons] at hgroups
    rw [inBrackets_cons, cutStep_bracketed hgroups.1, ih hgroups.2, map_ahead_map]
    rfl

-- Of the texts that are read as a step, those that can be cut off are the grouped ones.
theorem grouped_iff (h : readStep axis step = .ok s) :
    Grouped s.test step ↔ ∃ cs more, cutStep 0 none cs = .ok (step, more) := by
  constructor
  · rintro ⟨groups, hgroups, hstep⟩
    obtain ⟨-, hproper, -⟩ := of_readStep h
    refine ⟨step ++ [], [], ?_⟩
    rw [hstep, List.append_assoc, cutStep_forall hproper.written_plain,
      cutStep_inBrackets hgroups, cutStep_end (by simp), map_ahead_map]
    simp [ahead, Except.map]
  · rintro ⟨cs, more, hcut⟩
    obtain ⟨-, hlevel⟩ := level_of_cutStep hcut
    obtain ⟨-, ls, hworded, hclosed⟩ := worded_of_readStep h hlevel
    obtain ⟨-, hconditions⟩ := hworded
    obtain ⟨groups, hgroups, rfl⟩ := hconditions.exists_groups hclosed
    exact ⟨groups, hgroups, rfl⟩

end Groups

-- The scan that cuts off a step counts brackets, and the scan that cuts off a condition does not.
-- They agree on every step that is cut off and begins with a name: all its brackets are found closed.
-- Each cut is made between two characters, and each turn goes on behind its first one.
theorem scans_agree :
    (∀ cs, stepEnd 0 none 0 cs = (cutStep 0 none cs).map fun p => byteCount p.1) ∧
    (∀ rest, closingBracket? ('[' :: rest) =
      (cutCondition? none rest).map fun p => 1 + byteCount p.1) ∧
    (∀ cs step more, cutStep 0 none cs = .ok (step, more) →
      cs = step ++ more ∧ StepSlices cs step more ∧
      (step.takeWhile (· ≠ '[') = ['*'] ∨ isName (step.takeWhile (· ≠ '[')) = true →
        ∀ rest, ReflTransGen ConditionTurn (step.dropWhile (· ≠ '[')) ('[' :: rest) →
          ∃ close, closingBracket? ('[' :: rest) = some close) ∧
      ∀ axis, readStep axis step ≠ .error .unterminated) ∧
    (∀ rest inner more, cutCondition? none rest = some (inner, more) →
      rest = inner ++ ']' :: more ∧ ConditionSlices ('[' :: rest) inner more) ∧
    (∀ text, read text = .error .unterminated ↔
      ∃ rest, ReflTransGen StepTurn (Text.trim text) ('/' :: rest) ∧
        cutStep 0 none (axisOf rest).2 = .error .unterminated) ∧
    (∀ axis step s, readStep axis step = .ok s →
      (Grouped s.test step ↔ ∃ cs more, cutStep 0 none cs = .ok (step, more))) ∧
    ∀ cs more, ConditionTurn cs more ∨ StepTurn cs more →
      more <:+ cs ∧ more.length < cs.length := by
  refine ⟨fun cs => ?_, closingBracket?_eq, fun cs step more hcut => ?_,
    fun rest inner more hcut => ?_, fun text => read_eq_unterminated_iff,
    fun axis step s => grouped_iff, fun cs more hturn => ?_⟩
  · rw [stepEnd_eq]
    simp only [Nat.zero_add]
  · obtain ⟨hcs, -⟩ := level_of_cutStep hcut
    refine ⟨hcs, ?_, fun hname rest hturns => ?_, readStep_ne_unterminated hcut⟩
    · rw [hcs]
      exact stepSlices_append step more
    · rcases readStep_cases step with ⟨test, hproper, htake, -⟩ | ⟨hbad, -⟩
      · obtain ⟨inner, later, hsome⟩ := exists_cut_of_cutStep hcut hproper htake hturns
        exact ⟨1 + byteCount inner, by rw [closingBracket?_eq, hsome]; rfl⟩
      · exact absurd hname hbad
  · obtain ⟨rfl, -⟩ := level_of_cutCondition? hcut
    exact ⟨rfl, conditionSlices_append inner more⟩
  · rcases hturn with hturn | hturn
    · exact hturn.suffix
    · exact hturn.suffix

-- A closing bracket between quotes, behind a character of two bytes.
def quotedBracket : Step := ⟨.child, .name "a", [.equal "x" "é]", .position 2]⟩

theorem scans_agree_quotedBracket :
    cutStep 0 none "a[@x='é]'][2]/b".toList = .ok ("a[@x='é]'][2]".toList, "/b".toList) ∧
      readStep .child "a[@x='é]'][2]".toList = .ok quotedBracket ∧
      ReflTransGen ConditionTurn "[@x='é]'][2]".toList "[2]".toList ∧
      StepSlices "a[@x='é]'][2]/b".toList "a[@x='é]'][2]".toList "/b".toList ∧
      (∃ close, closingBracket? "[2]".toList = some close) ∧
      Grouped (.name "a") "a[@x='é]'][2]".toList := by
  have hcut : cutStep 0 none "a[@x='é]'][2]/b".toList =
      .ok ("a[@x='é]'][2]".toList, "/b".toList) := rfl
  have hread : readStep .child "a[@x='é]'][2]".toList = .ok quotedBracket := by
    have htest : quotedBracket.test.Proper := by decide
    have hconditions : ∀ c ∈ quotedBracket.conditions, c.Grammatical := by decide
    obtain ⟨ls, hworded, hproper⟩ := (bracketed_written hconditions).worded
    have htext : quotedBracket.test.written ++
        quotedBracket.conditions.flatMap Condition.written = "a[@x='é]'][2]".toList := by
      decide +kernel
    have hstep : quotedBracket.Worded ls "a[@x='é]'][2]".toList := htext ▸ .intro htest hworded
    exact hstep.read_eq fun l hl => (hproper l hl).closed
  have hturn : ConditionTurn "[@x='é]'][2]".toList "[2]".toList := .intro rfl
  obtain ⟨-, -, hsteps, -, -, hgrouped, -⟩ := scans_agree
  obtain ⟨-, hslices, hclosed, -⟩ := hsteps _ _ _ hcut
  exact ⟨hcut, hread, .single hturn, hslices, hclosed (.inr (by decide)) _ (.single hturn),
    (hgrouped _ _ _ hread).2 ⟨_, _, hcut⟩⟩

end Stepwise.Path
