import Stepwise.Proofs.Path.Name
import Stepwise.Proofs.Text.Digits
import Stepwise.Selector.Token

namespace Stepwise.Selector.Token

variable {c : Char} {n : Nat} {cs v rest more : List Char} {t : Token}

theorem all_of_next (h : next c rest = (some t, more)) : all (c :: rest) = t :: all more := by
  rw [all, h]
  rfl

section Name

def EndsName (rest : List Char) : Prop :=
  ∀ c ∈ rest.head?, isNameChar c = false ∧ c ≠ '\\' ∧ c ≠ '\x00'

theorem endsName_cons (hname : isNameChar c = false) (hslash : c ≠ '\\') (hnul : c ≠ '\x00') :
    EndsName (c :: rest) := by
  intro d hd
  cases hd
  exact ⟨hname, hslash, hnul⟩

theorem readName_of_endsName (h : EndsName rest) : readName rest = ([], rest) := by
  cases rest with
  | nil => rw [readName]
  | cons c rest =>
    obtain ⟨hname, hslash, hnul⟩ := h c rfl
    rw [readName]
    simp [hname, hnul, hslash]

theorem readName_append (hcs : ∀ c ∈ cs, isNameChar c = true) (hrest : EndsName rest) :
    readName (cs ++ rest) = (cs, rest) := by
  induction cs with
  | nil => exact readName_of_endsName hrest
  | cons c cs ih =>
    rw [List.forall_mem_cons] at hcs
    rw [List.cons_append, readName, if_pos hcs.1, ih hcs.2]

theorem isNameChar_of_isNamePart (h : Path.isNamePart c = true) (hcolon : c ≠ ':') :
    isNameChar c = true := by
  simp only [Path.isNamePart, Bool.or_eq_true, beq_iff_eq] at h
  rcases h with ((h | h) | h) | h
  · simp [isNameChar, h]
  · simp [isNameChar, h]
  · simp [isNameChar, h]
  · exact absurd h hcolon

theorem isNameChar_of_isName (h : Path.isName cs = true) (hcolon : ':' ∉ cs) :
    ∀ c ∈ cs, isNameChar c = true := by
  intro c hc
  exact isNameChar_of_isNamePart (Path.isNamePart_of_mem h hc) fun heq => hcolon (heq ▸ hc)

-- A word begins with a letter or an underscore.
theorem next_word (h : c.isAlpha = true ∨ c = '_') (rest : List Char) :
    next c rest = (some (readWord (c :: rest)).1, (readWord (c :: rest)).2) := by
  have hne (d : Char) (hd : d.isAlpha = false) (hscore : d ≠ '_') : c ≠ d := by
    rintro rfl
    rcases h with h | h
    · rw [hd] at h
      cases h
    · exact hscore h
  have hblank : Text.isAsciiBlank c = false := by
    simp [Text.isAsciiBlank, hne]
  have hdigit : c.isDigit = false := by
    rcases h with h | rfl
    · exact Path.isDigit_of_isAlpha h
    · decide
  have hstart : startsName (c :: rest) = true := by
    rcases h with h | rfl <;> simp [startsName, *]
  simp [next, hblank, hdigit, hstart, hne]

-- The names of a path are words of its selector, apart from those with a colon.
theorem all_name (h : Path.isName cs = true) (hcolon : ':' ∉ cs) (hrest : EndsName rest)
    (hparen : rest.head? ≠ some '(') :
    all (cs ++ rest) = .ident (String.ofList cs) :: all rest := by
  obtain ⟨c, front, rfl⟩ := List.exists_cons_of_ne_nil (Path.ne_nil_of_isName h)
  have hword : readWord (c :: front ++ rest) = (.ident (String.ofList (c :: front)), rest) := by
    rw [readWord, readName_append (isNameChar_of_isName h hcolon) hrest]
    cases rest with
    | nil => rfl
    | cons d rest =>
      have hd : d ≠ '(' := fun heq => hparen (by rw [heq]; rfl)
      simp [hd]
  rw [List.cons_append] at hword ⊢
  refine all_of_next ?_
  rw [next_word (Path.isName_cons_iff.1 h).1, hword]

theorem all_nthOfType (rest : List Char) :
    all (":nth-of-type(".toList ++ rest) =
      .colon :: .opener (.function "nth-of-type") :: all rest := by
  have hname : readName ("nth-of-type".toList ++ '(' :: rest) =
      ("nth-of-type".toList, '(' :: rest) :=
    readName_append (by simp [isNameChar]) (endsName_cons (by decide) (by decide) (by decide))
  have hword : readWord ('n' :: ("th-of-type(".toList ++ rest)) =
      (.opener (.function "nth-of-type"), rest) := by
    have htext : 'n' :: ("th-of-type(".toList ++ rest) = "nth-of-type".toList ++ '(' :: rest := by
      simp
    rw [htext, readWord, hname]
    rfl
  have hcolon : next ':' ("nth-of-type(".toList ++ rest) =
      (some .colon, "nth-of-type(".toList ++ rest) := rfl
  have hopener : next 'n' ("th-of-type(".toList ++ rest) =
      (some (.opener (.function "nth-of-type")), rest) := by
    rw [next_word (.inl (by decide)), hword]
  exact (all_of_next hcolon).trans (congrArg _ (all_of_next hopener))

end Name

section Number

theorem foldl_int (cs : List Char) (m : Nat) :
    cs.foldl (fun (n : Int) d => n * 10 + (d.toNat - '0'.toNat : Nat)) m =
      (cs.foldl (fun n d => n * 10 + (d.toNat - '0'.toNat)) m : Nat) := by
  induction cs generalizing m with
  | nil => rfl
  | cons c cs ih =>
    rw [List.foldl_cons, List.foldl_cons, ← ih]
    rfl

-- The number that a selector reads; it counts no further than this.
def counted (n : Nat) : Nat := min n 0x7FFFFFFF

theorem counted_of_lt (h : n < 0x80000000) : counted n = n := Nat.min_eq_left (by omega)

theorem saturate_natCast (n : Nat) : saturate (n : Int) = (counted n : Nat) := by
  simp only [saturate, counted]
  omega

theorem readNumber_toDigits (n : Nat) (rest : List Char) :
    readNumber none (Nat.toDigits 10 n ++ ')' :: rest) =
      (.number false (some (counted n : Nat)), ')' :: rest) := by
  have hdigits : ∀ c ∈ Nat.toDigits 10 n, c.isDigit = true := Text.isDigit_toDigits n
  have hparen : ')'.isDigit = false := by decide
  have htake : (Nat.toDigits 10 n ++ ')' :: rest).takeWhile Char.isDigit = Nat.toDigits 10 n := by
    rw [List.takeWhile_append_of_pos hdigits]
    simp [hparen]
  have hdrop : (Nat.toDigits 10 n ++ ')' :: rest).dropWhile Char.isDigit = ')' :: rest := by
    rw [List.dropWhile_append_of_pos hdigits]
    simp [hparen]
  have hvalue : (Nat.toDigits 10 n).foldl
      (fun (n : Int) d => n * 10 + (d.toNat - '0'.toNat : Nat)) 0 = n :=
    (foldl_int (Nat.toDigits 10 n) 0).trans (congrArg Nat.cast (Text.foldl_toDigits n))
  have hunit : readUnit false (some (counted n : Nat)) (')' :: rest) =
      (.number false (some (counted n : Nat)), ')' :: rest) := rfl
  have hneg : ¬ none = some '-' := by simp
  simp only [readNumber, htake, hdrop, hvalue, hneg, if_false, saturate_natCast]
  exact hunit

theorem all_number (n : Nat) (rest : List Char) :
    all (Nat.toDigits 10 n ++ ')' :: rest) =
      .number false (some (counted n : Nat)) :: .closer .round :: all rest := by
  obtain ⟨c, more, hdigits, hdigit⟩ := Text.exists_toDigits n
  have hread := readNumber_toDigits n rest
  have hne (d : Char) (hd : d.isDigit = false) : c ≠ d := Text.ne_of_isDigit hdigit hd
  have hblank : Text.isAsciiBlank c = false := by
    simp [Text.isAsciiBlank, hne]
  have hclose : next ')' rest = (some (.closer .round), rest) := rfl
  rw [hdigits, List.cons_append] at hread ⊢
  have hnext : next c (more ++ ')' :: rest) =
      (some (.number false (some (counted n : Nat))), ')' :: rest) := by
    simp [next, hblank, hdigit, hne, hread]
  rw [all_of_next hnext, all_of_next hclose]

end Number

section Quoted

-- A character of a value as a selector reads it between the quotes.
def shownChar (c : Char) : Char := if c = '\x00' then replacement else c

theorem readString_marked (hmark : c = '\\' ∨ c = '"') (rest : List Char) :
    readString '"' ('\\' :: c :: rest) =
      ((readString '"' rest).1.map (shownChar c :: ·), (readString '"' rest).2) := by
  have hhex : isHexDigit c = false := by rcases hmark with rfl | rfl <;> decide
  have hnul : c ≠ '\x00' := by rcases hmark with rfl | rfl <;> decide
  have hstart : startsLine (c :: rest) = false := by rcases hmark with rfl | rfl <;> rfl
  have hslash : isNewline '\\' = false := by decide
  have hescape : readEscape (c :: rest) = (c, rest) := by
    simp [readEscape, hhex, hnul]
  rw [readString]
  simp [hslash, hstart, hescape, shownChar, hnul]

theorem readString_unmarked (hmark : ¬ (c = '\\' ∨ c = '"')) (hline : isNewline c = false)
    (rest : List Char) : readString '"' (c :: rest) =
      ((readString '"' rest).1.map (shownChar c :: ·), (readString '"' rest).2) := by
  simp only [not_or] at hmark
  rw [readString]
  simp [hmark.1, hmark.2, hline, shownChar]

theorem readString_escape (hv : ∀ c ∈ v, isNewline c = false) (rest : List Char) :
    readString '"' (Path.escape v ++ '"' :: rest) = (some (v.map shownChar), rest) := by
  induction v with
  | nil => rw [Path.escape, List.nil_append, readString, if_pos rfl, List.map_nil]
  | cons c v ih =>
    rw [List.forall_mem_cons] at hv
    rw [Path.escape]
    by_cases hmark : c = '\\' ∨ c = '"'
    · rw [if_pos hmark, List.cons_append, List.cons_append, readString_marked hmark, ih hv.2]
      rfl
    · rw [if_neg hmark, List.cons_append, readString_unmarked hmark hv.1, ih hv.2]
      rfl

theorem all_quoted (hv : ∀ c ∈ v, isNewline c = false) (rest : List Char) :
    all ('"' :: Path.escape v ++ '"' :: rest) =
      .string (String.ofList (v.map shownChar)) :: all rest := by
  have hnext : next '"' (Path.escape v ++ '"' :: rest) =
      (some (readQuoted '"' (Path.escape v ++ '"' :: rest)).1,
        (readQuoted '"' (Path.escape v ++ '"' :: rest)).2) := rfl
  rw [readQuoted, readString_escape hv] at hnext
  exact all_of_next hnext

-- No backslash goes before the end of a line, and the text breaks off there.
theorem readString_escape_newline (hc : c ∈ v) (hline : isNewline c = true) (rest : List Char) :
    (readString '"' (Path.escape v ++ rest)).1 = none := by
  induction v with
  | nil => cases hc
  | cons d v ih =>
    have hlater (hd : isNewline d = false) : (readString '"' (Path.escape v ++ rest)).1 = none := by
      rcases List.mem_cons.1 hc with rfl | hc
      · rw [hd] at hline
        cases hline
      · exact ih hc
    rw [Path.escape]
    by_cases hmark : d = '\\' ∨ d = '"'
    · have hd : isNewline d = false := by rcases hmark with rfl | rfl <;> decide
      rw [if_pos hmark, List.cons_append, List.cons_append, readString_marked hmark, hlater hd]
      rfl
    · rw [if_neg hmark, List.cons_append]
      cases hd : isNewline d with
      | true =>
        simp only [not_or] at hmark
        rw [readString]
        simp [hmark.2, hd]
      | false =>
        rw [readString_unmarked hmark hd, hlater hd]
        rfl

theorem all_quoted_newline (hc : c ∈ v) (hline : isNewline c = true) (rest : List Char) :
    ∃ more, all ('"' :: Path.escape v ++ rest) = .broken :: more := by
  have hread : readQuoted '"' (Path.escape v ++ rest) =
      (.broken, (readString '"' (Path.escape v ++ rest)).2) := by
    have hnone := readString_escape_newline hc hline rest
    rw [readQuoted]
    split
    · next htext => rw [htext] at hnone; cases hnone
    · next htext => rw [htext]
  have hnext : next '"' (Path.escape v ++ rest) =
      (some (readQuoted '"' (Path.escape v ++ rest)).1,
        (readQuoted '"' (Path.escape v ++ rest)).2) := rfl
  rw [hread] at hnext
  exact ⟨_, all_of_next hnext⟩

end Quoted

end Stepwise.Selector.Token
