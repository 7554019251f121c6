import Stepwise.Proofs.Path.Reading

namespace Stepwise.Path

variable {c : Char} {depth deep : Nat} {quote : Option Char} {cs step inner more text : List Char}
  {conditions : List Condition} {s : Step} {steps : List Step} {ls ls' : List Literal}

section Level

-- What a character does to the number of open brackets and the open quote. A bracket that closes
-- nothing has no place in a text.
def advance (state : Nat × Option Char) (c : Char) : Option (Nat × Option Char) :=
  match state with
  | (depth, some q) => some (depth, if c = q then none else some q)
  | (depth, none) =>
    if isQuote c then some (depth, some c)
    else if c = '[' then some (depth + 1, none)
    else if c = ']' then
      match depth with
      | 0 => none
      | d + 1 => some (d, none)
    else some (depth, none)

def level (state : Nat × Option Char) (cs : List Char) : Option (Nat × Option Char) :=
  cs.foldlM advance state

theorem level_cons {state state' : Nat × Option Char} (h : advance state c = some state')
    (cs : List Char) : level state (c :: cs) = level state' cs := by
  rw [level, List.foldlM_cons, h]
  rfl

theorem level_append (state : Nat × Option Char) (cs more : List Char) :
    level state (cs ++ more) = (level state cs).bind fun state => level state more :=
  List.foldlM_append

theorem level_plain (h : Plain cs) : level (depth, none) cs = some (depth, none) := by
  induction cs with
  | nil => rfl
  | cons c cs ih =>
    obtain ⟨⟨hquote, hopen, hclose⟩, hcs⟩ := List.forall_mem_cons.1 h
    have hstep : advance (depth, none) c = some (depth, none) := by
      simp [advance, hquote, hopen, hclose]
    rw [level_cons hstep, ih hcs]

-- A bracket that opens and the one that closes it leave the depth to what stands between them.
theorem level_bracketed (h : level (depth + 1, none) inner = some (deep + 1, none))
    (more : List Char) :
    level (depth, none) ('[' :: inner ++ ']' :: more) = level (deep, none) more := by
  have hopen : advance (depth, none) '[' = some (depth + 1, none) := rfl
  have hclose : advance (deep + 1, none) ']' = some (deep, none) := rfl
  rw [List.cons_append, level_cons hopen, level_append, h, Option.bind_some, level_cons hclose]

-- A step is cut off where all brackets and quotes are closed.
theorem level_of_cutStep (h : cutStep depth quote cs = .ok (step, more)) :
    cs = step ++ more ∧ level (depth, quote) step = some (0, none) := by
  induction cs generalizing depth quote step with
  | nil =>
    simp only [cutStep] at h
    split at h
    · cases h
    · next hclosed =>
      cases h
      simp only [ne_eq, not_or, not_not, Option.not_isSome_iff_eq_none] at hclosed
      obtain ⟨rfl, rfl⟩ := hclosed
      exact ⟨rfl, rfl⟩
  | cons c cs ih =>
    have onward {depth' : Nat} {quote' : Option Char}
        (hstep : advance (depth, quote) c = some (depth', quote'))
        (h : (cutStep depth' quote' cs >>= fun p => pure (c :: p.1, p.2)) = .ok (step, more)) :
        c :: cs = step ++ more ∧ level (depth, quote) step = some (0, none) := by
      obtain ⟨⟨s, m⟩, hcut, heq⟩ := bind_eq_ok_iff.1 h
      cases heq
      obtain ⟨rfl, hlevel⟩ := ih hcut
      exact ⟨rfl, (level_cons hstep s).trans hlevel⟩
    simp only [cutStep] at h
    split at h
    · exact onward rfl h
    · split at h
      · next hquote => exact onward (by simp [advance, hquote]) h
      · next hquote =>
        split at h
        · next hopen => exact onward (by simp [advance, hopen, isQuote]) h
        · next hopen =>
          split at h
          · next hclose =>
            split at h
            · cases h
            · exact onward (by simp [advance, hclose, isQuote]) h
          · next hclose =>
            split at h
            · next hend =>
              cases h
              exact ⟨rfl, by rw [hend.2]; rfl⟩
            · exact onward (by simp [advance, hquote, hopen, hclose]) h

-- A text whose open quote is closed somewhere, and which has no brackets behind that.
def SealedFrom : Option Char → List Char → Prop
  | none, cs => Sealed cs
  | some q, cs => ∃ v rest, q ∉ v ∧ cs = v ++ q :: rest ∧ Sealed rest

-- What is cut off as a condition closes its quotes and no bracket. If it does not open one either,
-- it is sealed.
theorem level_of_cutCondition? (h : cutCondition? quote cs = some (inner, more)) :
    cs = inner ++ ']' :: more ∧ ∃ opened, (∀ depth,
      level (depth, quote) inner = some (depth + opened, none)) ∧
        (opened = 0 → SealedFrom quote inner) := by
  induction cs generalizing quote inner with
  | nil => cases h
  | cons c cs ih =>
    -- the character opens `grown` brackets, none or one
    have onward (grown : Nat) (quote' : Option Char)
        (hstep : ∀ depth, advance (depth, quote) c = some (depth + grown, quote'))
        (hsealed : ∀ cs, grown = 0 → SealedFrom quote' cs → SealedFrom quote (c :: cs))
        (h : (cutCondition? quote' cs >>= fun p => pure (c :: p.1, p.2)) = some (inner, more)) :
        c :: cs = inner ++ ']' :: more ∧ ∃ opened, (∀ depth,
          level (depth, quote) inner = some (depth + opened, none)) ∧
            (opened = 0 → SealedFrom quote inner) := by
      obtain ⟨⟨i, m⟩, hcut, heq⟩ := Option.bind_eq_some_iff.1 h
      cases heq
      obtain ⟨rfl, opened, hlevel, hrest⟩ := ih hcut
      refine ⟨rfl, grown + opened, fun depth => ?_, fun hzero => ?_⟩
      · rw [level_cons (hstep depth), hlevel, Nat.add_assoc]
      · obtain ⟨rfl, rfl⟩ := Nat.add_eq_zero_iff.1 hzero
        exact hsealed i rfl (hrest rfl)
    simp only [cutCondition?] at h
    split at h
    · next q =>
      by_cases hc : c = q
      · rw [if_pos hc] at h
        exact onward 0 none (fun depth => by simp [advance, hc])
          (fun cs _ hcs => ⟨[], cs, by simp, by simp [hc], hcs⟩) h
      · rw [if_neg hc] at h
        refine onward 0 (some q) (fun depth => by simp [advance, hc]) ?_ h
        rintro _ - ⟨v, rest, hv, rfl, hrest⟩
        exact ⟨c :: v, rest, by simp [Ne.symm hc, hv], rfl, hrest⟩
    · split at h
      · next hquote =>
        refine onward 0 (some c) (fun depth => by simp [advance, hquote]) ?_ h
        rintro _ - ⟨v, rest, hv, rfl, hrest⟩
        exact Sealed.quoted hquote hv hrest
      · next hquote =>
        rw [Bool.not_eq_true] at hquote
        split at h
        · next hclose =>
          cases h
          exact ⟨by rw [hclose]; rfl, 0, fun depth => rfl, fun _ => Sealed.nil⟩
        · next hclose =>
          by_cases hopen : c = '['
          · exact onward 1 none (fun depth => by simp [advance, hopen, isQuote])
              (fun _ hzero => by cases hzero) h
          · exact onward 0 none (fun depth => by simp [advance, hquote, hopen, hclose])
              (fun _ _ hcs => Sealed.plain hquote hopen hclose hcs) h

end Level

section Sound

-- The brackets of a step are closed again where it ends, so no condition in it has opened any.
theorem worded_of_readConditions (h : readConditions step cs = .ok conditions)
    (hlevel : level (depth, none) cs = some (deep, none)) :
    depth ≤ deep ∧ (deep = depth →
      ∃ ls, Conditions.Worded conditions ls cs ∧ ∀ l ∈ ls, l.Closed) := by
  fun_induction readConditions step cs generalizing conditions depth with
  | case1 =>
    cases h
    cases hlevel
    exact ⟨Nat.le_refl _, fun _ => ⟨[], .nil, by simp⟩⟩
  | case2 rest hcut => cases h
  | case3 rest inner more hcut ih =>
    obtain ⟨c, hcondition, h⟩ := bind_eq_ok_iff.1 h
    obtain ⟨conditions, hrest, h⟩ := bind_eq_ok_iff.1 h
    cases h
    obtain ⟨rfl, opened, hopened, hsealed⟩ := level_of_cutCondition? hcut
    have hmore : level (depth + opened, none) more = some (deep, none) := by
      have hinner : level (depth + 1, none) inner = some (depth + opened + 1, none) := by
        rw [hopened, Nat.add_right_comm]
      rwa [← List.cons_append, level_bracketed hinner] at hlevel
    obtain ⟨hle, hworded⟩ := ih hrest hmore
    refine ⟨by omega, fun hdeep => ?_⟩
    obtain rfl : opened = 0 := by omega
    obtain ⟨ls', hconditions, hclosed'⟩ := hworded hdeep
    obtain ⟨ls, hinner, hquote⟩ :=
      worded_of_readCondition (Text.isBlank_getLast?_trim inner) hcondition
    obtain ⟨front, back, hfront, hback, hpad⟩ := Text.exists_trim inner
    have hliterals : ∀ l ∈ ls, Sealed l.written := by
      rw [← hinner.sealed_iff, ← sealed_between (plain_of_blank hfront) (plain_of_blank hback),
        ← hpad]
      exact hsealed rfl
    refine ⟨ls ++ ls', ?_, List.forall_mem_append.2 ⟨fun l hl => ⟨hquote l hl, hliterals l hl⟩, hclosed'⟩⟩
    have hall := Conditions.Worded.cons hfront hback hinner hconditions
    rwa [← hpad] at hall
  | case4 => cases h

-- What stands before the first bracket is the name of an element, or there is no step.
theorem readStep_cases (cs : List Char) :
    (∃ test : NameTest, test.Proper ∧ cs.takeWhile (· ≠ '[') = test.written ∧
      ∀ axis, readStep axis cs =
        (readConditions cs (cs.dropWhile (· ≠ '['))).map fun conditions => ⟨axis, test, conditions⟩) ∨
    (¬ (cs.takeWhile (· ≠ '[') = ['*'] ∨ isName (cs.takeWhile (· ≠ '[')) = true) ∧
      ∀ axis, readStep axis cs = .error (.elementStep (String.ofList cs))) := by
  by_cases hstar : cs.takeWhile (· ≠ '[') = ['*']
  · refine .inl ⟨.any, trivial, hstar, fun axis => ?_⟩
    rw [readStep, if_pos hstar]
    cases readConditions cs (cs.dropWhile (· ≠ '[')) <;> rfl
  · by_cases hname : isName (cs.takeWhile (· ≠ '[')) = true
    · refine .inl ⟨.name (String.ofList (cs.takeWhile (· ≠ '['))), ?_, ?_, fun axis => ?_⟩
      · rwa [NameTest.Proper, String.toList_ofList]
      · rw [NameTest.written, NameTest.selectorText, String.toList_ofList]
      · rw [readStep, if_neg hstar, if_pos hname]
        cases readConditions cs (cs.dropWhile (· ≠ '[')) <;> rfl
    · refine .inr ⟨not_or.2 ⟨hstar, hname⟩, fun axis => ?_⟩
      rw [readStep, if_neg hstar, if_neg hname]
      rfl

theorem NameTest.Proper.plain {test : NameTest} (h : test.Proper) : Path.Plain test.written :=
  fun c hc =>
    have hchar := h.written_plain c hc
    ⟨hchar.1, hchar.2.1, hchar.2.2.1⟩

-- A name opens nothing, so the scan of the conditions goes on from where the scan of the step is.
theorem level_dropWhile {test : NameTest} (htest : test.Proper)
    (htake : cs.takeWhile (· ≠ '[') = test.written) :
    level (0, none) (cs.dropWhile (· ≠ '[')) = level (0, none) cs := by
  have hall : level (0, none) (test.written ++ cs.dropWhile (· ≠ '[')) =
      level (0, none) (cs.dropWhile (· ≠ '[')) := by
    rw [level_append, level_plain htest.plain, Option.bind_some]
  rw [← htake, List.takeWhile_append_dropWhile] at hall
  exact hall.symm

theorem of_readStep {axis : Axis} (h : readStep axis cs = .ok s) :
    s.axis = axis ∧ s.test.Proper ∧ cs.takeWhile (· ≠ '[') = s.test.written ∧
      readConditions cs (cs.dropWhile (· ≠ '[')) = .ok s.conditions := by
  rcases readStep_cases cs with ⟨test, hproper, htake, hstep⟩ | ⟨-, herror⟩
  · rw [hstep, map_eq_ok_iff] at h
    obtain ⟨conditions, hconditions, rfl⟩ := h
    exact ⟨rfl, hproper, htake, hconditions⟩
  · rw [herror] at h
    cases h

theorem worded_of_readStep {axis : Axis} (h : readStep axis cs = .ok s)
    (hlevel : level (0, none) cs = some (0, none)) :
    s.axis = axis ∧ ∃ ls, s.Worded ls cs ∧ ∀ l ∈ ls, l.Closed := by
  obtain ⟨haxis, hproper, htake, hconditions⟩ := of_readStep h
  rw [← level_dropWhile hproper htake] at hlevel
  obtain ⟨ls, hworded, hclosed⟩ := (worded_of_readConditions hconditions hlevel).2 rfl
  have hcs : s.test.written ++ cs.dropWhile (· ≠ '[') = cs := by
    rw [← htake, List.takeWhile_append_dropWhile]
  refine ⟨haxis, ls, ?_, hclosed⟩
  rw [← hcs]
  exact .intro hproper hworded

theorem written_axisOf (cs : List Char) : (axisOf cs).1.written ++ (axisOf cs).2 = '/' :: cs := by
  unfold axisOf
  split <;> rfl

theorem written_of_target? (axis : Axis) {target : Target} (h : target? step = some (.ok target)) :
    ∃ ending : Ending, ending.Proper ∧ ending.target = target ∧
      ending.written = axis.written ++ step := by
  unfold target? at h
  split at h
  · next htext =>
    cases h
    exact ⟨.text axis, trivial, rfl, by rw [htext]; rfl⟩
  · split at h
    · next name _ =>
      obtain ⟨a, hname, htarget⟩ := map_eq_ok_iff.1 (Option.some.inj h)
      cases htarget
      obtain ⟨ha, rfl⟩ := attributeName_eq_ok_iff.1 hname
      exact ⟨.attr axis a, ha, rfl, rfl⟩
    · cases h

-- What is read as steps is worded as steps, each of them as it was cut off.
theorem worded_of_readSteps {target : Target} (h : readSteps cs = .ok (steps, target)) :
    ∃ ending ls, target = ending.target ∧ Steps.Worded ending steps ls cs ∧ ∀ l ∈ ls, l.Closed := by
  fun_induction readSteps cs generalizing steps target with
  | case1 =>
    cases h
    exact ⟨.element, [], rfl, .ending trivial, by simp⟩
  | case2 rest e hcut => cases h
  | case3 => cases h
  | case4 rest step more hcut target? htarget hmore =>
    obtain ⟨t, rfl, heq⟩ := map_eq_ok_iff.1 h
    cases heq
    obtain rfl : more = [] := not_not.1 hmore
    obtain ⟨hrest, -⟩ := level_of_cutStep hcut
    obtain ⟨ending, hending, rfl, hwritten⟩ := written_of_target? (axisOf rest).1 htarget
    refine ⟨ending, [], rfl, ?_, by simp⟩
    rw [← written_axisOf, hrest, List.append_nil, ← hwritten]
    exact .ending hending
  | case5 rest step more hcut htarget ih =>
    obtain ⟨s, hstep, h⟩ := bind_eq_ok_iff.1 h
    obtain ⟨⟨steps, t⟩, hmore, h⟩ := bind_eq_ok_iff.1 h
    cases h
    obtain ⟨hrest, hlevel⟩ := level_of_cutStep hcut
    obtain ⟨haxis, ls, hbody, hclosed⟩ := worded_of_readStep hstep hlevel
    obtain ⟨ending, ls', htarget, htext, hclosed'⟩ := ih hmore
    refine ⟨ending, ls ++ ls', htarget, ?_, List.forall_mem_append.2 ⟨hclosed, hclosed'⟩⟩
    rw [← written_axisOf, hrest, ← List.append_assoc, ← haxis]
    exact .step hbody htext
  | case6 => cases h

theorem worded_of_read {path : Path} (h : read text = .ok path) :
    ∃ ls, Worded path ls text ∧ ∀ l ∈ ls, l.Closed := by
  unfold read at h
  dsimp only at h
  split at h
  · cases h
  · obtain ⟨⟨steps, target⟩, hsteps, h⟩ := bind_eq_ok_iff.1 h
    dsimp only at h
    split at h
    · cases h
    · next hne =>
      cases h
      obtain ⟨ending, ls, htarget, hbody, hclosed⟩ := worded_of_readSteps hsteps
      obtain ⟨front, back, hfront, hback, htext⟩ := Text.exists_trim text
      refine ⟨ls, ?_, hclosed⟩
      have hworded : Worded ⟨steps, target⟩ ls _ := .intro hfront hback hne htarget hbody
      rwa [← htext] at hworded

end Sound

section Unique

-- A text has one wording. The cuts are the same in both, so what stands between them is too.

theorem Conditions.Worded.unique (h : Worded conditions ls text) (h' : Worded conditions ls' text)
    (hclosed : ∀ l ∈ ls, l.Closed) (hclosed' : ∀ l ∈ ls', l.Closed) : ls = ls' := by
  induction h generalizing ls' with
  | nil => cases h'; rfl
  | @cons c conditions ls rest front inner back text hfront hback hinner _ ih =>
    generalize htext : '[' :: (front ++ inner ++ back) ++ ']' :: text = whole at h'
    cases h' with
    | @cons _ _ ls' rest' front' inner' back' text' hfront' hback' hinner' hrest' =>
      obtain ⟨hls, hrest⟩ := List.forall_mem_append.1 hclosed
      obtain ⟨hls', hclosedRest'⟩ := List.forall_mem_append.1 hclosed'
      have htail : front ++ inner ++ back ++ ']' :: text = front' ++ inner' ++ back' ++ ']' :: text' :=
        (List.cons.inj htext).2
      have hcut := cutCondition?_sealed (hinner.sealed_padded hfront hback hls) text
      rw [htail, cutCondition?_sealed (hinner'.sealed_padded hfront' hback' hls') text'] at hcut
      obtain ⟨hpadded, rfl⟩ := Prod.mk.inj (Option.some.inj hcut)
      have hquote : ∀ l ∈ ls, isQuote l.quote = true := fun l hl => (hls l hl).isQuote
      have hquote' : ∀ l ∈ ls', isQuote l.quote = true := fun l hl => (hls' l hl).isQuote
      have htrim := congrArg Text.trim hpadded
      rw [Text.trim_pad hfront hback, Text.trim_pad hfront' hback', hinner.trim_eq hquote,
        hinner'.trim_eq hquote'] at htrim
      rw [hinner.unique (htrim ▸ hinner') hquote hquote', ih hrest' hrest hclosedRest']

theorem Step.Worded.unique (h : s.Worded ls text) (h' : s.Worded ls' text)
    (hclosed : ∀ l ∈ ls, l.Closed) (hclosed' : ∀ l ∈ ls', l.Closed) : ls = ls' := by
  obtain @⟨conditions, -, hconditions⟩ := h
  generalize htext : s.test.written ++ conditions = whole at h'
  obtain @⟨conditions', -, hconditions'⟩ := h'
  obtain rfl := List.append_cancel_left htext
  exact hconditions.unique hconditions' hclosed hclosed'

theorem Steps.Worded.unique {ending ending' : Ending} (h : Worded ending steps ls text)
    (h' : Worded ending' steps ls' text) (hclosed : ∀ l ∈ ls, l.Closed)
    (hclosed' : ∀ l ∈ ls', l.Closed) : ls = ls' := by
  induction h generalizing ls' with
  | ending =>
    generalize ending.written = whole at h'
    cases h'
    rfl
  | @step s steps ls rest body text hbody htext ih =>
    generalize hwhole : s.axis.written ++ body ++ text = whole at h'
    cases h' with
    | @step _ _ ls' rest' body' text' hbody' htext' =>
      obtain ⟨hls, hrest⟩ := List.forall_mem_append.1 hclosed
      obtain ⟨hls', hrest'⟩ := List.forall_mem_append.1 hclosed'
      rw [List.append_assoc, List.append_assoc] at hwhole
      have hcut := hbody.cut_eq hls htext.head
      rw [List.append_cancel_left hwhole, hbody'.cut_eq hls' htext'.head] at hcut
      obtain ⟨rfl, rfl⟩ := Prod.mk.inj (Except.ok.inj hcut)
      rw [hbody.unique hbody' hls hls', ih htext' hrest hrest']

theorem Worded.unique {path path' : Path} (h : Worded path ls text) (h' : Worded path' ls' text)
    (hclosed : ∀ l ∈ ls, l.Closed) (hclosed' : ∀ l ∈ ls', l.Closed) : ls = ls' := by
  have hread := h.read_eq hclosed
  rw [h'.read_eq hclosed'] at hread
  obtain rfl := Except.ok.inj hread
  obtain @⟨ending, front, body, back, hfront, hback, hne, -, hbody⟩ := h
  generalize htext : front ++ body ++ back = whole at h'
  obtain @⟨ending', front', body', back', hfront', hback', -, -, hbody'⟩ := h'
  have htrim := congrArg Text.trim htext
  rw [Text.trim_pad hfront hback, Text.trim_pad hfront' hback', hbody.trim_eq hne,
    hbody'.trim_eq hne] at htrim
  exact hbody.unique (htrim ▸ hbody') hclosed hclosed'

end Unique

section Exact

-- What is read is exactly what is worded with closed values. It is documented unless one of the
-- values holds its own quote: a value is cut at the outer quotes only.
theorem read_documented_iff (text : List Char) :
    (∀ path, read text = .ok path ↔ ∃ ls, Worded path ls text ∧ ∀ l ∈ ls, l.Closed) ∧
      (((∃ path, read text = .ok path) → Documented text) ↔
        ∀ path ls, Worded path ls text → (∀ l ∈ ls, l.Closed) → ∀ l ∈ ls, l.quote ∉ l.value) := by
  refine ⟨fun path => ⟨worded_of_read, fun ⟨ls, hworded, hclosed⟩ => hworded.read_eq hclosed⟩,
    fun hdoc path ls hworded hclosed l hl => ?_, fun hvalues ⟨path, hread⟩ => ?_⟩
  · obtain ⟨path', ls', hworded', hproper⟩ := hdoc ⟨path, hworded.read_eq hclosed⟩
    obtain rfl := hworded.unique hworded' hclosed fun l' hl' => (hproper l' hl').closed
    exact (hproper l hl).not_mem
  · obtain ⟨ls, hworded, hclosed⟩ := worded_of_read hread
    exact ⟨path, ls, hworded, fun l hl =>
      ⟨(hclosed l hl).isQuote, hvalues path ls hworded hclosed l hl⟩⟩

-- Two conditions joined by `and`, which are read as one value.
def joinedText : List Char := "//a[@x='v' and @y='w']".toList

def joinedPath : Path := ⟨[⟨.descendant, .name "a", [.equal "x" "v' and @y='w"]⟩], .text⟩

def joinedValue : Literal := ⟨'\'', "v' and @y='w".toList⟩

theorem worded_joined : Worded joinedPath [joinedValue] joinedText := by
  have hcondition : Condition.Worded (.equal "x" "v' and @y='w") [joinedValue]
      "@x='v' and @y='w'".toList := by
    rw [← @String.ofList_toList "v' and @y='w"]
    exact .equal (a := "x") (l := joinedValue) (by decide) .nil .nil .nil
  have hconditions := Conditions.Worded.cons .nil .nil hcondition .nil
  have hstep : Step.Worded ⟨.descendant, .name "a", [.equal "x" "v' and @y='w"]⟩ [joinedValue]
      "a[@x='v' and @y='w']".toList := .intro rfl hconditions
  have hbody : Steps.Worded .element joinedPath.steps [joinedValue] joinedText :=
    .step hstep (.ending trivial)
  have hpath : Worded joinedPath [joinedValue] ([] ++ joinedText ++ []) :=
    .intro .nil .nil (by decide) rfl hbody
  exact hpath

theorem closed_joinedValue : joinedValue.Closed where
  isQuote := rfl
  closes :=
    have hjoin : Sealed " and @y=".toList := .of_forall (by simp [isQuote])
    have hlast : Sealed "'w'".toList := .quoted (q := '\'') (v := ['w']) rfl (by decide) .nil
    .quoted (q := '\'') (v := ['v']) rfl (by decide) (hjoin.append hlast)

theorem not_documented_joined :
    read joinedText = .ok joinedPath ∧ ¬ Documented joinedText := by
  have hclosed : ∀ l ∈ [joinedValue], l.Closed := by simpa using closed_joinedValue
  refine ⟨worded_joined.read_eq hclosed, fun ⟨path, ls, hworded, hproper⟩ => ?_⟩
  obtain rfl := worded_joined.unique hworded hclosed fun l hl => (hproper l hl).closed
  exact absurd (hproper joinedValue (by simp)).not_mem (by decide)

end Exact

end Stepwise.Path
