import Mathlib.Data.List.Induction
import Stepwise.Proofs.Except
import Stepwise.Proofs.Path.Condition
import Stepwise.Proofs.Path.Grammar
import Stepwise.Proofs.Text.Digits

namespace Stepwise.Path

open Text (Blank)

variable {c d : Char} {n : Nat} {a : String} {cs v x y inner front back gap : List Char}
  {l l' : Literal}

section Parts

theorem splitOnce?_eq_some_iff : splitOnce? d cs = some (x, y) ↔ cs = x ++ d :: y ∧ d ∉ x := by
  constructor
  · intro h
    induction cs generalizing x with
    | nil => cases h
    | cons c cs ih =>
      rw [splitOnce?] at h
      split at h
      · next hc =>
        cases h
        simp [hc]
      · next hc =>
        obtain ⟨⟨x', y'⟩, hrest, heq⟩ := Option.map_eq_some_iff.1 h
        cases heq
        obtain ⟨rfl, hnot⟩ := ih hrest
        exact ⟨rfl, fun hmem => (List.mem_cons.1 hmem).elim (fun heq => hc heq.symm) hnot⟩
  · rintro ⟨rfl, hnot⟩
    exact splitOnce?_append hnot y

theorem unquote_eq_ok_iff :
    unquote cs = .ok v ↔ ∃ l : Literal, isQuote l.quote = true ∧ cs = l.written ∧ v = l.value := by
  constructor
  · intro h
    cases cs with
    | nil => cases h
    | cons c rest =>
      rw [unquote] at h
      split at h
      · next hquoted =>
        obtain ⟨hquote, hlast⟩ := Bool.and_eq_true_iff.1 hquoted
        obtain ⟨value, rfl⟩ := List.getLast?_eq_some_iff.1 (beq_iff_eq.1 hlast)
        cases h
        exact ⟨⟨c, value⟩, hquote, rfl, List.dropLast_concat⟩
      · cases h
  · rintro ⟨l, hq, rfl, rfl⟩
    exact unquote_quoted hq l.value

theorem containsArguments?_eq_some_iff :
    containsArguments? cs = some x ↔ cs = "contains(".toList ++ x ++ [')'] := by
  constructor
  · intro h
    unfold containsArguments? at h
    dsimp only at h
    split at h
    · next hword =>
      obtain ⟨hfront, hlast⟩ := Bool.and_eq_true_iff.1 hword
      obtain ⟨rest, rfl⟩ := List.isPrefixOf_iff_prefix.1 hfront
      rw [List.drop_left] at h hlast
      obtain ⟨arguments, rfl⟩ := List.getLast?_eq_some_iff.1 (beq_iff_eq.1 hlast)
      rw [List.dropLast_concat] at h
      cases h
      rw [List.append_assoc]
    · cases h
  · rintro rfl
    exact containsArguments?_written x

theorem attributeName_eq_ok_iff :
    attributeName cs = .ok a ↔ isName a.toList = true ∧ cs = a.toList := by
  constructor
  · intro h
    rw [attributeName] at h
    split at h
    · next hname =>
      cases h
      simp [hname]
    · cases h
  · rintro ⟨hname, rfl⟩
    exact attributeName_of_isName hname

-- Zero is a position that is read here, though it is refused as a condition.
theorem position?_eq_some_iff : position? cs = some n ↔
    n < 0x10000000000000000 ∧ ∃ sign digits, (sign = [] ∨ sign = ['+']) ∧ digits ≠ [] ∧
      (∀ c ∈ digits, c.isDigit = true) ∧ Nat.ofDigitChars 10 digits 0 = n ∧ cs = sign ++ digits := by
  have hdigits (digits : List Char) :
      (if digits.isEmpty || !digits.all Char.isDigit then none
        else if digits.foldl (fun n c => n * 10 + (c.toNat - '0'.toNat)) 0 < 0x10000000000000000 then
          some (digits.foldl (fun n c => n * 10 + (c.toNat - '0'.toNat)) 0)
        else none) = some n ↔
      n < 0x10000000000000000 ∧ digits ≠ [] ∧ (∀ c ∈ digits, c.isDigit = true) ∧
        Nat.ofDigitChars 10 digits 0 = n := by
    rw [Text.foldl_eq_ofDigitChars]
    constructor
    · intro h
      split at h
      · cases h
      · next hall =>
        split at h
        · next hlt =>
          cases h
          simp only [Bool.or_eq_true, Bool.not_eq_true', not_or, Bool.not_eq_true,
            Bool.not_eq_false, List.isEmpty_eq_false_iff, List.all_eq_true] at hall
          exact ⟨hlt, hall.1, hall.2, rfl⟩
        · cases h
    · rintro ⟨hlt, hne, hall, rfl⟩
      have hsome : (digits.isEmpty || !digits.all Char.isDigit) = false := by
        rw [List.isEmpty_eq_false_iff.2 hne, List.all_eq_true.2 hall]
        rfl
      rw [hsome, if_neg Bool.false_ne_true, if_pos hlt]
  constructor
  · intro h
    unfold position? at h
    dsimp only at h
    split at h
    · next digits =>
      obtain ⟨hlt, hne, hall, hvalue⟩ := (hdigits _).1 h
      exact ⟨hlt, ['+'], digits, .inr rfl, hne, hall, hvalue, rfl⟩
    · obtain ⟨hlt, hne, hall, hvalue⟩ := (hdigits _).1 h
      exact ⟨hlt, [], cs, .inl rfl, hne, hall, hvalue, rfl⟩
  · rintro ⟨hlt, sign, digits, hsign, hne, hall, hvalue, rfl⟩
    rcases hsign with rfl | rfl
    · rw [List.nil_append, position?_of_forall_isDigit hne hall, Text.foldl_eq_ofDigitChars, hvalue,
        if_pos hlt]
    · exact (hdigits digits).2 ⟨hlt, hne, hall, hvalue⟩

end Parts

section Read

-- White space and a name hold none of the characters that divide a condition.
theorem not_mem_padded (ha : isName a.toList = true) (hfront : Blank front) (hback : Blank back)
    (hblank : Text.isBlank d = false) (hname : isNamePart d = false) :
    d ∉ front ++ a.toList ++ back := by
  have hnot {cs : List Char} (hcs : Blank cs) : d ∉ cs := fun hmem => by
    rw [hcs d hmem] at hblank
    cases hblank
  simp [hnot hfront, hnot hback, not_mem_of_isName ha hname]

theorem trim_padded (ha : isName a.toList = true) (hfront : Blank front) (hback : Blank back) :
    Text.trim (front ++ a.toList ++ back) = a.toList := by
  rw [Text.trim_pad hfront hback, trim_of_isName ha]

theorem trim_literal (hq : isQuote l.quote = true) (hgap : Blank gap) (hback : Blank back) :
    Text.trim (gap ++ l.written ++ back) = l.written := by
  rw [Text.trim_pad hgap hback]
  exact trim_quoted hq l.value

theorem splitOnce?_equal (ha : isName a.toList = true) (hfront : Blank front) (hback : Blank back)
    (y : List Char) :
    splitOnce? '=' (front ++ a.toList ++ back ++ '=' :: y) = some (front ++ a.toList ++ back, y) :=
  splitOnce?_append (not_mem_padded ha hfront hback (by decide) (by decide)) y

theorem splitOnce?_part (ha : isName a.toList = true) (hfront : Blank front) (hback : Blank back)
    (y : List Char) :
    splitOnce? ',' (front ++ '@' :: a.toList ++ back ++ ',' :: y) =
      some (front ++ '@' :: a.toList ++ back, y) := by
  refine splitOnce?_append ?_ y
  have hnot := not_mem_padded (d := ',') ha hfront hback (by decide) (by decide)
  simpa using hnot

theorem trim_attribute (ha : isName a.toList = true) (hfront : Blank front) (hback : Blank back) :
    Text.trim (front ++ '@' :: a.toList ++ back) = '@' :: a.toList := by
  rw [Text.trim_pad hfront hback]
  refine Text.trim_eq_self (by simp [Text.isBlank]) fun c hc => ?_
  rcases List.mem_cons.1 (List.mem_of_mem_getLast? hc) with rfl | hmem
  · decide
  · exact isBlank_of_isNamePart (isNamePart_of_mem ha hmem)

variable {condition condition' : Condition} {ls ls' : List Literal} {inner : List Char}

theorem Condition.Worded.read_eq (h : condition.Worded ls inner)
    (hq : ∀ l ∈ ls, isQuote l.quote = true) : readCondition inner = .ok condition := by
  cases h with
  | @position n sign digits hsign hne hdigits hvalue hlow hhigh =>
    have hread : position? (sign ++ digits) = some n :=
      position?_eq_some_iff.2 ⟨hhigh, sign, digits, hsign, hne, hdigits, hvalue, rfl⟩
    obtain ⟨m, rfl⟩ : ∃ m, n = m + 1 := ⟨n - 1, by omega⟩
    simp only [readCondition, hread]
  | @present a front ha hfront =>
    have hsplit : splitOnce? '=' (front ++ a.toList) = none := by
      have hnot := not_mem_padded (d := '=') ha hfront .nil (by decide) (by decide)
      exact splitOnce?_of_not_mem (by simpa using hnot)
    have htrim := trim_padded ha hfront .nil
    rw [List.append_nil] at htrim
    rw [List.cons_append, readCondition_at]
    simp only [readAttribute, hsplit, htrim, ha, if_true, String.ofList_toList]
  | @equal a l front back gap ha hfront hback hgap =>
    have hquote := hq l (List.mem_singleton_self l)
    have hsplit := splitOnce?_equal ha hfront hback (gap ++ l.written)
    have hvalue := trim_literal hquote hgap .nil
    rw [List.append_nil] at hvalue
    have htext : '@' :: front ++ a.toList ++ back ++ '=' :: gap ++ l.written =
        '@' :: (front ++ a.toList ++ back ++ '=' :: (gap ++ l.written)) := by simp
    rw [htext, readCondition_at]
    simp only [readAttribute, hsplit, trim_padded ha hfront hback, hvalue]
    refine bind_eq_ok_iff.2 ⟨a, attributeName_of_isName ha, ?_⟩
    exact bind_eq_ok_iff.2 ⟨l.value, unquote_quoted hquote l.value, rfl⟩
  | @part a l front back gap last ha hfront hback hgap hlast =>
    have hquote := hq l (List.mem_singleton_self l)
    have hsplit := splitOnce?_part ha hfront hback (gap ++ l.written ++ last)
    have htext : front ++ '@' :: a.toList ++ back ++ ',' :: gap ++ l.written ++ last =
        front ++ '@' :: a.toList ++ back ++ ',' :: (gap ++ l.written ++ last) := by simp
    rw [readCondition_contains, htext]
    simp only [readContains, hsplit, trim_attribute ha hfront hback, trim_literal hquote hgap hlast]
    refine bind_eq_ok_iff.2 ⟨l.value, unquote_quoted hquote l.value, ?_⟩
    exact bind_eq_ok_iff.2 ⟨a, attributeName_of_isName ha, rfl⟩

theorem worded_of_readAttribute (hlast : ∀ c ∈ cs.getLast?, Text.isBlank c = false)
    (h : readAttribute cs = .ok condition) :
    ∃ ls, condition.Worded ls ('@' :: cs) ∧ ∀ l ∈ ls, isQuote l.quote = true := by
  unfold readAttribute at h
  split at h
  · -- without an equals sign there is only a name
    split at h
    · next hname =>
      cases h
      obtain ⟨front, hfront, hcs⟩ := Text.exists_trim_of_last hlast
      refine ⟨[], ?_, by simp⟩
      have hworded := Condition.Worded.present (a := String.ofList (Text.trim cs))
        (by rwa [String.toList_ofList]) hfront
      rwa [String.toList_ofList, List.cons_append, ← hcs] at hworded
    · cases h
  · next attr value hsplit =>
    obtain ⟨rfl, -⟩ := splitOnce?_eq_some_iff.1 hsplit
    obtain ⟨a, hattr, h⟩ := bind_eq_ok_iff.1 h
    obtain ⟨v, hunquote, h⟩ := bind_eq_ok_iff.1 h
    cases h
    obtain ⟨ha, htrim⟩ := attributeName_eq_ok_iff.1 hattr
    obtain ⟨l, hquote, hliteral, rfl⟩ := unquote_eq_ok_iff.1 hunquote
    obtain ⟨front, back, hfront, hback, hcs⟩ := Text.exists_trim attr
    have hend : ∀ c ∈ value.getLast?, Text.isBlank c = false := fun c hc =>
      hlast c (by rw [List.getLast?_append, List.getLast?_cons, hc]; rfl)
    obtain ⟨gap, hgap, hvalue⟩ := Text.exists_trim_of_last hend
    refine ⟨[l], ?_, by simpa using hquote⟩
    have hworded := Condition.Worded.equal (l := l) ha hfront hback hgap
    rw [htrim] at hcs
    rw [hliteral] at hvalue
    rw [hcs, hvalue]
    simpa using hworded

theorem worded_of_readContains (h : readContains cs = .ok condition) :
    ∃ ls, condition.Worded ls ("contains(".toList ++ cs ++ [')']) ∧
      ∀ l ∈ ls, isQuote l.quote = true := by
  unfold readContains at h
  split at h
  · next attr value hsplit =>
    obtain ⟨rfl, -⟩ := splitOnce?_eq_some_iff.1 hsplit
    split at h
    · next name htrim =>
      obtain ⟨v, hunquote, h⟩ := bind_eq_ok_iff.1 h
      obtain ⟨a, hattr, h⟩ := bind_eq_ok_iff.1 h
      cases h
      obtain ⟨ha, rfl⟩ := attributeName_eq_ok_iff.1 hattr
      obtain ⟨l, hquote, hliteral, rfl⟩ := unquote_eq_ok_iff.1 hunquote
      obtain ⟨front, back, hfront, hback, hcs⟩ := Text.exists_trim attr
      obtain ⟨gap, last, hgap, hlast, hvalue⟩ := Text.exists_trim value
      refine ⟨[l], ?_, by simpa using hquote⟩
      have hworded := Condition.Worded.part (l := l) ha hfront hback hgap hlast
      rw [htrim] at hcs
      rw [hliteral] at hvalue
      rw [hcs, hvalue]
      simpa using hworded
    · cases h
  · cases h

-- What is read as a condition is worded as one.
theorem worded_of_readCondition (hlast : ∀ c ∈ inner.getLast?, Text.isBlank c = false)
    (h : readCondition inner = .ok condition) :
    ∃ ls, condition.Worded ls inner ∧ ∀ l ∈ ls, isQuote l.quote = true := by
  unfold readCondition at h
  split at h
  · cases h
  · next n hzero hposition =>
    cases h
    obtain ⟨hhigh, sign, digits, hsign, hne, hdigits, hvalue, rfl⟩ := position?_eq_some_iff.1 hposition
    have hlow : 1 ≤ n := Nat.one_le_iff_ne_zero.2 hzero
    exact ⟨[], .position hsign hne hdigits hvalue hlow hhigh, by simp⟩
  · split at h
    · next arguments hcontains =>
      obtain rfl := containsArguments?_eq_some_iff.1 hcontains
      exact worded_of_readContains h
    · split at h
      · next attr _ _ =>
        refine worded_of_readAttribute (fun c hc => hlast c ?_) h
        rw [List.getLast?_cons, hc]
        rfl
      · cases h

-- A condition has no white space at its ends.
theorem Condition.Worded.trim_eq (h : condition.Worded ls inner)
    (hq : ∀ l ∈ ls, isQuote l.quote = true) : Text.trim inner = inner := by
  have hname {a : String} (ha : isName a.toList = true) :
      ∀ c ∈ a.toList.getLast?, Text.isBlank c = false := fun c hc =>
    isBlank_of_isNamePart (isNamePart_of_mem ha (List.mem_of_mem_getLast? hc))
  cases h with
  | @position n sign digits hsign hne hdigits hvalue hlow hhigh =>
    have hblank : ∀ c ∈ sign ++ digits, Text.isBlank c = false := by
      have hdigit : ∀ c ∈ digits, Text.isBlank c = false := fun c hc =>
        isBlank_of_isNamePart (isNamePart_of_isDigit (hdigits c hc))
      rcases hsign with rfl | rfl
      · exact hdigit
      · exact List.forall_mem_cons.2 ⟨by decide, hdigit⟩
    exact Text.trim_eq_self (fun c hc => hblank c (List.mem_of_mem_head? hc))
      fun c hc => hblank c (List.mem_of_mem_getLast? hc)
  | @present a front ha hfront =>
    refine Text.trim_eq_self (by simp [Text.isBlank]) fun c hc => ?_
    obtain ⟨first, rest, hcons⟩ := List.exists_cons_of_ne_nil (ne_nil_of_isName ha)
    rw [List.getLast?_append, hcons, List.getLast?_cons, Option.some_or] at hc
    exact hname ha c (by rwa [hcons, List.getLast?_cons])
  | @equal a l =>
    refine Text.trim_eq_self (by simp [Text.isBlank]) fun c hc => ?_
    rw [Literal.written, ← List.append_assoc, List.getLast?_concat] at hc
    cases hc
    exact isBlank_of_isQuote (hq l (List.mem_singleton_self l))
  | part =>
    refine Text.trim_eq_self (by simp [Text.isBlank]) fun c hc => ?_
    rw [List.getLast?_concat] at hc
    cases hc
    decide

end Read

section Unique

variable {condition condition' : Condition} {ls ls' : List Literal}

theorem Literal.written_injective : Function.Injective Literal.written := by
  rintro ⟨q, v⟩ ⟨q', v'⟩ h
  obtain ⟨rfl, hrest⟩ := List.cons.inj h
  obtain ⟨rfl, -⟩ := List.append_inj' hrest rfl
  rfl

-- The quoted value in a condition, found by the comma or the equals sign in front of it.
def valueText? (inner : List Char) : Option (List Char) :=
  match containsArguments? inner with
  | some arguments => (splitOnce? ',' arguments).map fun parts => Text.trim parts.2
  | none => (splitOnce? '=' inner).map fun parts => Text.trim parts.2

theorem valueText?_cons (h : c ≠ 'c') (cs : List Char) :
    valueText? (c :: cs) = (splitOnce? '=' (c :: cs)).map fun parts => Text.trim parts.2 := by
  rw [valueText?, containsArguments?_cons_of_ne h]

theorem Condition.Worded.map_written (h : condition.Worded ls inner)
    (hq : ∀ l ∈ ls, isQuote l.quote = true) :
    ls.map Literal.written = (valueText? inner).toList := by
  cases h with
  | @position n sign digits hsign hne hdigits hvalue hlow hhigh =>
    have hchars : ∀ c ∈ sign ++ digits, c = '+' ∨ c.isDigit = true := by
      rcases hsign with rfl | rfl
      · exact fun c hc => .inr (hdigits c hc)
      · exact List.forall_mem_cons.2 ⟨.inl rfl, fun c hc => .inr (hdigits c hc)⟩
    obtain ⟨c, cs, hcs⟩ := List.exists_cons_of_ne_nil (List.append_ne_nil_of_right_ne_nil sign hne)
    rw [hcs] at hchars ⊢
    have hword : c ≠ 'c' := by
      rintro rfl
      simpa using hchars 'c' List.mem_cons_self
    have hnot : '=' ∉ c :: cs := fun hmem => by simpa using hchars '=' hmem
    rw [valueText?_cons hword, splitOnce?_of_not_mem hnot]
    rfl
  | @present a front ha hfront =>
    have hnot : '=' ∉ '@' :: front ++ a.toList := by
      simpa using not_mem_padded (d := '=') ha hfront .nil (by decide) (by decide)
    rw [List.cons_append] at hnot ⊢
    rw [valueText?_cons (by decide), splitOnce?_of_not_mem hnot]
    rfl
  | @equal a l front back gap ha hfront hback hgap =>
    have hnot : '=' ∉ '@' :: (front ++ a.toList ++ back) := by
      simpa using not_mem_padded (d := '=') ha hfront hback (by decide) (by decide)
    have htext : '@' :: front ++ a.toList ++ back ++ '=' :: gap ++ l.written =
        '@' :: (front ++ a.toList ++ back) ++ '=' :: (gap ++ l.written) := by simp
    have hvalue := trim_literal (hq l (List.mem_singleton_self l)) hgap .nil
    rw [List.append_nil] at hvalue
    have hsplit := splitOnce?_append hnot (gap ++ l.written)
    rw [htext, valueText?, hsplit]
    simp [containsArguments?, hvalue]
  | @part a l front back gap last ha hfront hback hgap hlast =>
    have hsplit := splitOnce?_part ha hfront hback (gap ++ l.written ++ last)
    have htext : front ++ '@' :: a.toList ++ back ++ ',' :: gap ++ l.written ++ last =
        front ++ '@' :: a.toList ++ back ++ ',' :: (gap ++ l.written ++ last) := by simp
    rw [valueText?, containsArguments?_written, htext]
    dsimp only
    rw [hsplit, Option.map_some, trim_literal (hq l (List.mem_singleton_self l)) hgap hlast]
    rfl

-- The text of a condition decides its literals.
theorem Condition.Worded.unique (h : condition.Worded ls inner) (h' : condition'.Worded ls' inner)
    (hq : ∀ l ∈ ls, isQuote l.quote = true) (hq' : ∀ l ∈ ls', isQuote l.quote = true) :
    ls = ls' :=
  (List.map_inj_right fun _ _ heq => Literal.written_injective heq).1
    ((h.map_written hq).trans (h'.map_written hq').symm)

end Unique

section Sealed

-- No brackets and no quotes.
def Plain (cs : List Char) : Prop := ∀ c ∈ cs, isQuote c = false ∧ c ≠ '[' ∧ c ≠ ']'

theorem Plain.append (h : Plain cs) (h' : Plain v) : Plain (cs ++ v) :=
  List.forall_mem_append.2 ⟨h, h'⟩

theorem plain_of_isName (h : isName cs = true) : Plain cs := fun _ hc =>
  sealed_char_of_isNamePart (isNamePart_of_mem h hc)

theorem plain_of_blank (h : Blank cs) : Plain cs := by
  intro c hc
  have hblank := h c hc
  refine ⟨Bool.eq_false_iff.2 fun hquote => ?_, ?_, ?_⟩
  · rw [isBlank_of_isQuote hquote] at hblank
    cases hblank
  · rintro rfl
    cases hblank
  · rintro rfl
    cases hblank

theorem Sealed.of_append (hfront : Plain front) (h : Sealed (front ++ cs)) : Sealed cs := by
  induction front with
  | nil => exact h
  | cons c front ih =>
    obtain ⟨⟨hc, -, -⟩, hfront⟩ := List.forall_mem_cons.1 hfront
    refine ih hfront ?_
    generalize htext : c :: front ++ cs = text at h
    cases h with
    | nil => cases htext
    | plain _ _ _ h =>
      obtain ⟨-, rfl⟩ := List.cons.inj htext
      exact h
    | quoted hq _ _ =>
      obtain ⟨rfl, -⟩ := List.cons.inj htext
      rw [hq] at hc
      cases hc

theorem Sealed.of_concat (hc : isQuote c = false) (h : Sealed (cs ++ [c])) : Sealed cs := by
  generalize htext : cs ++ [c] = text at h
  induction h generalizing cs with
  | nil => simp at htext
  | @plain d rest hquote hopen hclose _ ih =>
    cases cs with
    | nil => exact .nil
    | cons d' cs =>
      obtain ⟨rfl, hrest⟩ := List.cons.inj htext
      exact .plain hquote hopen hclose (ih hrest)
  | @quoted q v rest hq hv _ ih =>
    -- the last character is no quote, so it stands behind the quoted part
    rcases List.eq_nil_or_concat rest with rfl | ⟨rest, last, rfl⟩
    · obtain ⟨-, hlast⟩ := List.append_inj' htext rfl
      cases hlast
      rw [hq] at hc
      cases hc
    · have hsplit : cs ++ [c] = (q :: v ++ q :: rest) ++ [last] := by simpa using htext
      obtain ⟨rfl, hlast⟩ := List.append_inj' hsplit rfl
      cases hlast
      exact .quoted hq hv (ih (by simp))

theorem Sealed.of_append_plain (hback : Plain back) (h : Sealed (cs ++ back)) : Sealed cs := by
  induction back using List.reverseRecOn with
  | nil => simpa using h
  | append_singleton back c ih =>
    obtain ⟨hback, hc⟩ := List.forall_mem_append.1 hback
    rw [← List.append_assoc] at h
    exact ih hback (h.of_concat (hc c (List.mem_singleton_self c)).1)

-- What is plain at the ends of a text does not decide whether it is sealed.
theorem sealed_between (hfront : Plain front) (hback : Plain back) :
    Sealed (front ++ cs ++ back) ↔ Sealed cs := by
  constructor
  · intro h
    exact .of_append hfront (.of_append_plain hback h)
  · intro h
    exact ((Sealed.of_forall hfront).append h).append (.of_forall hback)

variable {condition : Condition} {ls : List Literal}

theorem Literal.Proper.closed (h : l.Proper) : l.Closed :=
  ⟨h.isQuote, .quoted h.isQuote h.not_mem .nil⟩

-- Brackets and open quotes can stand in a condition only in its quoted value.
theorem Condition.Worded.sealed_iff (h : condition.Worded ls inner) :
    Sealed inner ↔ ∀ l ∈ ls, Sealed l.written := by
  have hnil : Plain [] := by simp [Plain]
  have hat : Plain ['@'] := by simp [Plain, isQuote]
  cases h with
  | @position n sign digits hsign hne hdigits hvalue hlow hhigh =>
    have hplus : Plain sign := by rcases hsign with rfl | rfl <;> simp [Plain, isQuote]
    have hplain : Plain digits := fun c hc =>
      sealed_char_of_isNamePart (isNamePart_of_isDigit (hdigits c hc))
    simpa using Sealed.of_forall (hplus.append hplain)
  | @present a front ha hfront =>
    have hplain := hat.append ((plain_of_blank hfront).append (plain_of_isName ha))
    simpa using Sealed.of_forall hplain
  | @equal a l front back gap ha hfront hback hgap =>
    have hequals : Plain ['='] := by simp [Plain, isQuote]
    have hplain := (hat.append (plain_of_blank hfront)).append ((plain_of_isName ha).append
      ((plain_of_blank hback).append (hequals.append (plain_of_blank hgap))))
    have hsealed : Sealed (_ ++ l.written ++ []) ↔ _ := sealed_between hplain hnil
    simpa using hsealed
  | @part a l front back gap last ha hfront hback hgap hlast =>
    have hword : Plain "contains(".toList := by simp [Plain, isQuote]
    have hcomma : Plain [','] := by simp [Plain, isQuote]
    have hclose : Plain [')'] := by simp [Plain, isQuote]
    have hplain := (hword.append (plain_of_blank hfront)).append (hat.append ((plain_of_isName ha).append
      ((plain_of_blank hback).append (hcomma.append (plain_of_blank hgap)))))
    have hsealed : Sealed (_ ++ l.written ++ _) ↔ _ :=
      sealed_between hplain ((plain_of_blank hlast).append hclose)
    simpa using hsealed

theorem Condition.Worded.sealed_padded (h : condition.Worded ls inner) (hfront : Blank front)
    (hback : Blank back) (hclosed : ∀ l ∈ ls, l.Closed) : Sealed (front ++ inner ++ back) :=
  (sealed_between (plain_of_blank hfront) (plain_of_blank hback)).2
    (h.sealed_iff.2 fun l hl => (hclosed l hl).closes)

end Sealed

end Stepwise.Path
