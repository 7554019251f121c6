import Mathlib.Data.List.Infix
import Stepwise.Proofs.Path.Condition
import Stepwise.Proofs.Selector.Token

namespace Stepwise.Selector.Token

open Stepwise.Path (isNamePart)

variable {c d : Char} {cs more rest : List Char} {t : Token}

-- What may stand behind the name of an attribute. A name with colons is several words of a selector,
-- and all of them end here.
def EndsAttribute (rest : List Char) : Prop := ∀ c ∈ rest.head?, c ∈ [']', '=', '*']

theorem EndsAttribute.nil : EndsAttribute [] := by simp [EndsAttribute]

theorem forall_mark {P : Char → Prop} (h : P ']' ∧ P '=' ∧ P '*') : ∀ c ∈ [']', '=', '*'], P c := by
  simpa using h

theorem isDigit_mark : ∀ c ∈ [']', '=', '*'], c.isDigit = false := forall_mark (by decide)

theorem isNameChar_mark : ∀ c ∈ [']', '=', '*'], isNameChar c = false :=
  forall_mark (by decide)

-- Neither a bracket that opens nor one that closes.
structure Flat (t : Token) : Prop where
  opener : ∀ o, t ≠ .opener o
  closer : ∀ c, t ≠ .closer c

-- One word is read from the text alone, whatever stands behind it, and the word takes at least what
-- stands before `tail`.
def Stays (read : List Char → Token × List Char) (cs tail : List Char) : Prop :=
  ∃ t more, Flat t ∧ more <:+ tail ∧
    ∀ rest, EndsAttribute rest → read (cs ++ rest) = (t, more ++ rest)

section Head

variable {p : Char → Bool}

theorem head_append (hcs : ∀ c ∈ cs, isNamePart c = true) (hrest : EndsAttribute rest) :
    ∀ c ∈ (cs ++ rest).head?, isNamePart c = true ∨ c ∈ [']', '=', '*'] := by
  intro c hc
  cases cs with
  | nil => exact .inr (hrest c hc)
  | cons d cs =>
    cases hc
    exact .inl (hcs c List.mem_cons_self)

-- A character that is neither part of a name nor behind one does not come next.
theorem head_append_ne (hcs : ∀ c ∈ cs, isNamePart c = true) (hrest : EndsAttribute rest)
    (hd : isNamePart d = false ∧ d ∉ [']', '=', '*']) : (cs ++ rest).head? ≠ some d := by
  intro hhead
  rcases head_append hcs hrest d hhead with hpart | hmark
  · rw [hd.1] at hpart
    cases hpart
  · exact hd.2 hmark

theorem dropWhile_mark (hp : ∀ c ∈ [']', '=', '*'], p c = false) (hrest : EndsAttribute rest) :
    rest.dropWhile p = rest := by
  cases rest with
  | nil => rfl
  | cons c rest =>
    have hc : p c = false := hp c (hrest c rfl)
    exact List.dropWhile_cons_of_neg (by simp [hc])

theorem dropWhile_append_mark (hp : ∀ c ∈ [']', '=', '*'], p c = false) (hrest : EndsAttribute rest)
    (cs : List Char) : (cs ++ rest).dropWhile p = cs.dropWhile p ++ rest := by
  rw [List.dropWhile_append]
  by_cases h : (cs.dropWhile p).isEmpty = true
  · rw [if_pos h, dropWhile_mark hp hrest, List.isEmpty_iff.1 h, List.nil_append]
  · rw [if_neg h]

theorem takeWhile_append_mark (hp : ∀ c ∈ [']', '=', '*'], p c = false) (hrest : EndsAttribute rest)
    (cs : List Char) : (cs ++ rest).takeWhile p = cs.takeWhile p := by
  have hsplit : (cs ++ rest).takeWhile p ++ (cs.dropWhile p ++ rest) =
      cs.takeWhile p ++ (cs.dropWhile p ++ rest) := by
    rw [← dropWhile_append_mark hp hrest, List.takeWhile_append_dropWhile,
      dropWhile_append_mark hp hrest, ← List.append_assoc, List.takeWhile_append_dropWhile]
  exact List.append_cancel_right hsplit

theorem startsDigit_append (hrest : EndsAttribute rest) (cs : List Char) :
    startsDigit (cs ++ rest) = startsDigit cs := by
  cases cs with
  | cons c cs => rfl
  | nil =>
    cases rest with
    | nil => rfl
    | cons c rest => exact isDigit_mark c (hrest c rfl)

theorem startsNumber_append (hcs : ∀ c ∈ cs, isNamePart c = true) (hrest : EndsAttribute rest) :
    startsNumber (cs ++ rest) = startsDigit cs := by
  rw [← startsDigit_append hrest cs]
  have hpoint := head_append_ne hcs hrest (d := '.') (by decide)
  unfold startsNumber
  split
  · next heq =>
    rw [heq] at hpoint
    exact absurd rfl hpoint
  · rfl

theorem ne_of_isNamePart (hc : isNamePart c = true) (hd : isNamePart d = false) : c ≠ d := by
  rintro rfl
  rw [hc] at hd
  cases hd

theorem startsName_append (hcs : ∀ c ∈ cs, isNamePart c = true) (hrest : EndsAttribute rest) :
    startsName (cs ++ rest) = startsName cs := by
  have hmark : ∀ c ∈ [']', '=', '*'], ∀ more,
      startsName (c :: more) = false ∧ startsName ('-' :: c :: more) = false := by
    intro c hc more
    simp only [List.mem_cons, List.not_mem_nil, or_false] at hc
    rcases hc with rfl | rfl | rfl <;> exact ⟨rfl, rfl⟩
  match cs, rest with
  | c :: d :: cs, rest =>
    have hc : c ≠ '\\' := ne_of_isNamePart (hcs c List.mem_cons_self) (by decide)
    simp [startsName, hc]
  | [], [] => rfl
  | [], c :: rest => exact (hmark c (hrest c rfl) rest).1
  | [c], [] => rfl
  | [c], d :: rest =>
    have hc : c ≠ '\\' := ne_of_isNamePart (hcs c List.mem_cons_self) (by decide)
    by_cases hdash : c = '-'
    · subst hdash
      exact (hmark d (hrest d rfl) rest).2
    · simp [startsName, hc, hdash]

end Head

section Read

theorem isNamePart_of_suffix (hcs : ∀ c ∈ cs, isNamePart c = true) (h : more <:+ cs) :
    ∀ c ∈ more, isNamePart c = true := fun c hc => hcs c (h.mem hc)

-- A name ends at a colon or at the end of the text.
theorem readName_append_mark (hcs : ∀ c ∈ cs, isNamePart c = true) (hrest : EndsAttribute rest) :
    readName (cs ++ rest) = (cs.takeWhile isNameChar, cs.dropWhile isNameChar ++ rest) := by
  have hends : EndsName (cs.dropWhile isNameChar ++ rest) := by
    intro c hc
    have hname : isNameChar c = false := by
      have hhead := List.head?_dropWhile_not isNameChar (cs ++ rest)
      rw [dropWhile_append_mark isNameChar_mark hrest, hc] at hhead
      simpa using hhead
    have hdrop := isNamePart_of_suffix hcs (List.dropWhile_suffix isNameChar)
    refine ⟨hname, ?_, ?_⟩
    · rintro rfl
      exact head_append_ne hdrop hrest (by decide) hc
    · rintro rfl
      exact head_append_ne hdrop hrest (by decide) hc
  have hname : ∀ c ∈ cs.takeWhile isNameChar, isNameChar c = true := fun c hc =>
    List.mem_takeWhile_imp hc
  have hread := readName_append hname hends
  rwa [← List.append_assoc, List.takeWhile_append_dropWhile] at hread

theorem stays_readWord (hcs : ∀ c ∈ cs, isNamePart c = true) :
    Stays readWord cs (cs.dropWhile isNameChar) := by
  refine ⟨.ident (String.ofList (cs.takeWhile isNameChar)), cs.dropWhile isNameChar,
    ⟨by simp, by simp⟩, List.suffix_refl _, fun rest hrest => ?_⟩
  have hdrop := isNamePart_of_suffix hcs (List.dropWhile_suffix isNameChar)
  have hparen := head_append_ne hdrop hrest (d := '(') (by decide)
  rw [readWord, readName_append_mark hcs hrest]
  split
  · next heq =>
    obtain ⟨-, htext⟩ := Prod.mk.inj heq
    rw [htext] at hparen
    exact absurd rfl hparen
  · next heq =>
    cases heq
    rfl

theorem stays_readUnit (hcs : ∀ c ∈ cs, isNamePart c = true) (signed : Bool) (whole : Option Int) :
    Stays (readUnit signed whole) cs cs := by
  have hunit (rest : List Char) (hrest : EndsAttribute rest) : readUnit signed whole (cs ++ rest) =
      if startsName cs then
        (.dimension whole (String.ofList (cs.takeWhile isNameChar)), cs.dropWhile isNameChar ++ rest)
      else (.number signed whole, cs ++ rest) := by
    have hpercent := head_append_ne hcs hrest (d := '%') (by decide)
    unfold readUnit
    split
    · next heq =>
      rw [heq] at hpercent
      exact absurd rfl hpercent
    · rw [startsName_append hcs hrest, readName_append_mark hcs hrest]
  by_cases hname : startsName cs = true
  · refine ⟨.dimension whole (String.ofList (cs.takeWhile isNameChar)), cs.dropWhile isNameChar,
      ⟨by simp, by simp⟩, List.dropWhile_suffix _, fun rest hrest => ?_⟩
    rw [hunit rest hrest, if_pos hname]
  · refine ⟨.number signed whole, cs, ⟨by simp, by simp⟩, List.suffix_refl cs, fun rest hrest => ?_⟩
    rw [hunit rest hrest, if_neg hname]

theorem dropSign_append (hrest : EndsAttribute rest) (cs : List Char) :
    dropSign (cs ++ rest) = dropSign cs ++ rest := by
  cases cs with
  | nil =>
    rw [List.nil_append]
    unfold dropSign
    split
    · exact absurd (hrest '+' rfl) (by decide)
    · exact absurd (hrest '-' rfl) (by decide)
    · rfl
  | cons c cs =>
    rw [List.cons_append]
    unfold dropSign
    split <;> simp_all

theorem dropExponent_append (hrest : EndsAttribute rest) (cs : List Char) :
    dropExponent (cs ++ rest) = (dropExponent cs).map (· ++ rest) := by
  cases cs with
  | nil =>
    cases rest with
    | nil => rfl
    | cons c rest =>
      have hexponent : ∀ c ∈ [']', '=', '*'], ¬ (c = 'e' ∨ c = 'E') := forall_mark (by decide)
      simp [dropExponent, hexponent c (hrest c rfl)]
  | cons c cs =>
    rw [List.cons_append, dropExponent, dropSign_append hrest, startsDigit_append hrest,
      dropWhile_append_mark isDigit_mark hrest, dropExponent]
    split <;> rfl

theorem dropExponent_suffix (h : dropExponent cs = some more) : more <:+ cs := by
  have hsign (cs : List Char) : dropSign cs <:+ cs := by
    unfold dropSign
    split
    · exact List.suffix_cons _ _
    · exact List.suffix_cons _ _
    · exact List.suffix_refl _
  unfold dropExponent at h
  split at h
  · next c rest =>
    split at h
    · obtain rfl := Option.some.inj h
      exact (List.dropWhile_suffix _).trans ((hsign rest).trans (List.suffix_cons c rest))
    · cases h
  · cases h

-- Behind the digits comes a unit, and perhaps an exponent before it. A name holds no fraction.
theorem exists_readUnit (hcs : ∀ c ∈ cs, isNamePart c = true) (sign : Option Char) :
    ∃ whole tail, tail <:+ cs.dropWhile Char.isDigit ∧ ∀ rest, EndsAttribute rest →
      readNumber sign (cs ++ rest) = readUnit sign.isSome whole (tail ++ rest) := by
  have hfraction (rest : List Char) (hrest : EndsAttribute rest) :
      dropFraction (cs.dropWhile Char.isDigit ++ rest) = none := by
    have hdrop := isNamePart_of_suffix hcs (List.dropWhile_suffix Char.isDigit)
    have hpoint := head_append_ne hdrop hrest (d := '.') (by decide)
    unfold dropFraction
    split
    · next heq =>
      rw [heq] at hpoint
      exact absurd rfl hpoint
    · rfl
  cases hexponent : dropExponent (cs.dropWhile Char.isDigit) with
  | some tail =>
    refine ⟨none, tail, dropExponent_suffix hexponent, fun rest hrest => ?_⟩
    simp only [readNumber, dropWhile_append_mark isDigit_mark hrest, hfraction rest hrest,
      dropExponent_append hrest, hexponent, Option.map_some]
  | none =>
    let value : Int :=
      (cs.takeWhile Char.isDigit).foldl (fun n d => n * 10 + (d.toNat - '0'.toNat : Nat)) 0
    refine ⟨some (saturate (if sign = some '-' then -value else value)), cs.dropWhile Char.isDigit,
      List.suffix_refl _, fun rest hrest => ?_⟩
    simp only [readNumber, dropWhile_append_mark isDigit_mark hrest, hfraction rest hrest,
      dropExponent_append hrest, hexponent, Option.map_none, takeWhile_append_mark isDigit_mark hrest,
      value]

theorem stays_readNumber (hcs : ∀ c ∈ cs, isNamePart c = true) (sign : Option Char) :
    Stays (readNumber sign) cs (cs.dropWhile Char.isDigit) := by
  obtain ⟨whole, tail, htail, hnumber⟩ := exists_readUnit hcs sign
  have hparts := isNamePart_of_suffix hcs (htail.trans (List.dropWhile_suffix _))
  obtain ⟨t, more, hflat, hmore, hunit⟩ := stays_readUnit hparts sign.isSome whole
  refine ⟨t, more, hflat, hmore.trans htail, fun rest hrest => ?_⟩
  rw [hnumber rest hrest, hunit rest hrest]

end Read

section All

-- The first word of a name or of what is left of it.
def Begins (c : Char) (cs : List Char) : Prop :=
  ∃ t more, Flat t ∧ more <:+ cs ∧
    ∀ rest, EndsAttribute rest → next c (cs ++ rest) = (some t, more ++ rest)

variable (hcs : ∀ d ∈ cs, isNamePart d = true)
include hcs

theorem begins_word (hc : c.isAlpha = true ∨ c = '_') : Begins c cs := by
  have hparts : ∀ d ∈ c :: cs, isNamePart d = true :=
    List.forall_mem_cons.2 ⟨Path.isNamePart_of_start hc, hcs⟩
  have hname : isNameChar c = true := by
    refine isNameChar_of_isNamePart (Path.isNamePart_of_start hc) ?_
    rintro rfl
    exact absurd hc (by decide)
  obtain ⟨t, more, hflat, hmore, hread⟩ := stays_readWord hparts
  rw [List.dropWhile_cons_of_pos hname] at hmore
  refine ⟨t, more, hflat, hmore.trans (List.dropWhile_suffix _), fun rest hrest => ?_⟩
  rw [next_word hc, ← List.cons_append, hread rest hrest]

theorem begins_digit (hc : c.isDigit = true) : Begins c cs := by
  have hparts : ∀ d ∈ c :: cs, isNamePart d = true :=
    List.forall_mem_cons.2 ⟨Path.isNamePart_of_isDigit hc, hcs⟩
  obtain ⟨t, more, hflat, hmore, hread⟩ := stays_readNumber hparts none
  rw [List.dropWhile_cons_of_pos hc] at hmore
  refine ⟨t, more, hflat, hmore.trans (List.dropWhile_suffix _), fun rest hrest => ?_⟩
  have hne (d : Char) (hd : d.isDigit = false) : c ≠ d := Text.ne_of_isDigit hc hd
  have hblank : Text.isAsciiBlank c = false := by
    simp [Text.isAsciiBlank, hne]
  have hnumber := hread rest hrest
  rw [List.cons_append] at hnumber
  simp [next, hblank, hc, hne, hnumber]

theorem begins_hyphen : Begins '-' cs := by
  have hparts : ∀ d ∈ '-' :: cs, isNamePart d = true := List.forall_mem_cons.2 ⟨by decide, hcs⟩
  have hblank : Text.isAsciiBlank '-' = false := by decide
  by_cases hdigit : startsDigit cs = true
  · obtain ⟨t, more, hflat, hmore, hread⟩ := stays_readNumber hcs (some '-')
    refine ⟨t, more, hflat, hmore.trans (List.dropWhile_suffix _), fun rest hrest => ?_⟩
    simp [next, hblank, startsNumber_append hcs hrest, hdigit, hread rest hrest]
  · -- no comment ends here, since a name holds no `>`
    have harrow (rest : List Char) (hrest : EndsAttribute rest) :
        ['-', '>'].isPrefixOf (cs ++ rest) = false := by
      refine Bool.eq_false_iff.2 fun hprefix => ?_
      obtain ⟨more, hmore⟩ := List.isPrefixOf_iff_prefix.1 hprefix
      cases cs with
      | nil =>
        rw [List.nil_append] at hmore
        exact absurd (hrest '-' (by rw [← hmore]; rfl)) (by decide)
      | cons d cs =>
        obtain ⟨-, hcons⟩ : '-' = d ∧ '>' :: more = cs ++ rest := List.cons.inj hmore
        have hgreater := head_append_ne (List.forall_mem_cons.1 hcs).2 hrest (d := '>') (by decide)
        exact hgreater (by rw [← hcons]; rfl)
    by_cases hname : startsName ('-' :: cs) = true
    · obtain ⟨t, more, hflat, hmore, hread⟩ := stays_readWord hparts
      rw [List.dropWhile_cons_of_pos (by decide)] at hmore
      refine ⟨t, more, hflat, hmore.trans (List.dropWhile_suffix _), fun rest hrest => ?_⟩
      have hstart : startsName ('-' :: (cs ++ rest)) = true :=
        (startsName_append hparts hrest).trans hname
      have hword := hread rest hrest
      rw [List.cons_append] at hword
      simp [next, hblank, startsNumber_append hcs hrest, hdigit, harrow rest hrest, hstart, hword]
    · refine ⟨.delim '-', cs, ⟨by simp, by simp⟩, List.suffix_refl cs, fun rest hrest => ?_⟩
      have hstart : ¬ startsName ('-' :: (cs ++ rest)) = true := by
        rwa [← List.cons_append, startsName_append hparts hrest]
      simp [next, hblank, startsNumber_append hcs hrest, hdigit, harrow rest hrest, hstart, readMark]

theorem begins_of_isNamePart (hc : isNamePart c = true) : Begins c cs := by
  simp only [isNamePart, Bool.or_eq_true, beq_iff_eq] at hc
  rcases hc with ((hc | rfl) | rfl) | rfl
  · rcases Bool.or_eq_true_iff.1 hc with halpha | hdigit
    · exact begins_word hcs (.inl halpha)
    · exact begins_digit hcs hdigit
  · exact begins_hyphen hcs
  · exact begins_word hcs (.inr rfl)
  · exact ⟨.colon, cs, ⟨by simp, by simp⟩, List.suffix_refl cs, fun rest _ => rfl⟩

-- The words of a name do not depend on what stands behind it, and no bracket is among them.
theorem all_append_mark : (∀ t ∈ all cs, Flat t) ∧
    ∀ rest, EndsAttribute rest → all (cs ++ rest) = all cs ++ all rest := by
  induction hlength : cs.length using Nat.strong_induction_on generalizing cs with
  | _ n ih =>
    cases cs with
    | nil =>
      rw [all]
      exact ⟨by simp, fun rest _ => rfl⟩
    | cons c cs =>
      obtain ⟨hc, hrest⟩ := List.forall_mem_cons.1 hcs
      obtain ⟨t, more, hflat, hmore, hnext⟩ := begins_of_isNamePart hrest hc
      have hshorter : more.length < n := by
        have hle := hmore.length_le
        rw [List.length_cons] at hlength
        omega
      obtain ⟨hwords, hall⟩ := ih more.length hshorter (isNamePart_of_suffix hrest hmore) rfl
      have hfirst : all (c :: cs) = t :: all more := by
        have halone := hnext [] .nil
        rw [List.append_nil, List.append_nil] at halone
        exact all_of_next halone
      rw [hfirst]
      refine ⟨List.forall_mem_cons.2 ⟨hflat, hwords⟩, fun rest hends => ?_⟩
      rw [List.cons_append, all_of_next (hnext rest hends), hall rest hends, List.cons_append]

end All

end Stepwise.Selector.Token
