import Mathlib.Tactic.IntervalCases
import Stepwise.Toml.Text.Writer

namespace Stepwise.Toml

variable {c d e q : Char} {cs s more rest digits : List Char} {long : Bool} {i j : Nat}

section Escape

-- How a character that is no quote stands between double quotes.
inductive Spelling (c : Char) : List Char → Prop
  | plain (h : isPlain c = true) (hquote : c ≠ '"') (hslash : c ≠ '\\') : Spelling c [c]
  | short {e : Char} (h : escapedChar? e = some c) : Spelling c ['\\', e]
  | numbered {x y z w : Char} (h : numberedChar? [x, y, z, w] = some c) :
    Spelling c ['\\', 'u', x, y, z, w]

theorem isPlain_ne (h : isPlain c = true) : c ≠ '\n' ∧ c ≠ '\r' := by
  constructor <;> rintro rfl <;> revert h <;> decide

theorem Spelling.head (h : Spelling c cs) : ∃ d ds, cs = d :: ds ∧ d ≠ '"' ∧ isPlain d = true := by
  cases h with
  | plain h hquote _ => exact ⟨c, [], rfl, hquote, h⟩
  | short => exact ⟨'\\', _, rfl, by decide⟩
  | numbered => exact ⟨'\\', _, rfl, by decide⟩

theorem numberedChar?_of_valueIn? (h : valueIn? 16 digits = some c.toNat) :
    numberedChar? digits = some c := by
  have hvalid : c.toNat.isValidChar := c.valid
  rw [numberedChar?, h]
  exact (dif_pos hvalid).trans rfl

theorem digitValue?_hexDigit : ∀ i < 16, digitValue? (hexDigit i) = some i := by decide

theorem valueIn?_hexDigit (hi : i < 16) (hj : j < 16) :
    valueIn? 16 ['0', '0', hexDigit i, hexDigit j] = some (i * 16 + j) := by
  have hzero : digitValue? '0' = some 0 := by decide
  simp [valueIn?, hzero, digitValue?_hexDigit, hi, hj]

theorem spelling_escaped (hquote : c ≠ '"') (hend : long = false ∨ c ≠ '\n') :
    Spelling c (escaped long c) := by
  unfold escaped
  split
  · next h => subst h; exact .short (by decide)
  split
  · next h => subst h; exact .short (by decide)
  split
  · next h =>
    subst h
    obtain rfl | h := hend
    · exact .short (by decide)
    · exact absurd rfl h
  split
  · next h => subst h; exact .short (by decide)
  split
  · next h => subst h; exact .short (by decide)
  split
  · next h => subst h; exact .short (by decide)
  split
  · next hslash h => exact .plain h hquote hslash
  · next h =>
    have hlow : c.toNat < 0x80 := by
      simp only [isPlain, Bool.or_eq_true, Bool.and_eq_true, decide_eq_true_eq, bne_iff_ne] at h
      omega
    refine .numbered (numberedChar?_of_valueIn? ?_)
    rw [valueIn?_hexDigit (by omega) (by omega)]
    congr 1
    omega

theorem escapedChar?_ne (h : escapedChar? e = some c) (rest : List Char) :
    e ≠ 'u' ∧ e ≠ 'U' ∧ atLineEnd (e :: rest) = false := by
  have hne (d : Char) (hd : escapedChar? d = none) : e ≠ d := by
    rintro rfl
    rw [h] at hd
    cases hd
  have hblank : isBlank e = false := by
    simp [isBlank, hne ' ' (by decide), hne '\t' (by decide)]
  refine ⟨hne 'u' (by decide), hne 'U' (by decide), ?_⟩
  simp [atLineEnd, skipBlanks, hblank, hne '\n' (by decide), hne '\r' (by decide)]

theorem Spelling.readBasic_eq (h : Spelling c cs) (hmore : readBasic more = some (s, rest)) :
    readBasic (cs ++ more) = some (c :: s, rest) := by
  cases h with
  | plain h hquote hslash => simp [readBasic, Quoted.before, *]
  | short h =>
    obtain ⟨hu, hU, -⟩ := escapedChar?_ne h more
    simp [readBasic, Quoted.before, *]
  | numbered h => simp [readBasic, Quoted.beforeNumbered, Quoted.before, *]

theorem Spelling.readLongBasic_eq (h : Spelling c cs)
    (hmore : readLongBasic false more = some (s, rest)) :
    readLongBasic false (cs ++ more) = some (c :: s, rest) := by
  cases h with
  | plain h hquote hslash =>
    obtain ⟨hend, hreturn⟩ := isPlain_ne h
    simp [readLongBasic, Quoted.before, *]
  | short h =>
    obtain ⟨hu, hU, hline⟩ := escapedChar?_ne h more
    simp [readLongBasic, Quoted.before, *]
  | numbered h => simp [readLongBasic, Quoted.beforeNumbered, Quoted.before, *]

theorem writeEscaped_cons (hc : c ≠ '"') (s : List Char) :
    writeEscaped long i (c :: s) = escaped long c ++ writeEscaped long 0 s := if_neg hc

theorem spelling_quote : Spelling '"' ['\\', '"'] := .short (by decide)

end Escape

section Line

theorem readBasic_writeEscaped (s rest : List Char) :
    readBasic (writeEscaped false 0 s ++ '"' :: rest) = some (s, rest) := by
  induction s with
  | nil => simp [writeEscaped, readBasic]
  | cons c s ih =>
    by_cases hc : c = '"'
    · subst hc
      exact spelling_quote.readBasic_eq ih
    · rw [writeEscaped_cons hc, List.append_assoc]
      exact (spelling_escaped hc (.inl rfl)).readBasic_eq ih

theorem readLiteral_eq (h : ∀ c ∈ s, isPlain c = true ∧ c ≠ '\x27') (rest : List Char) :
    readLiteral (s ++ '\x27' :: rest) = some (s, rest) := by
  induction s with
  | nil => simp [readLiteral]
  | cons c s ih =>
    obtain ⟨⟨hplain, hc⟩, hs⟩ := List.forall_mem_cons.1 h
    simp [readLiteral, Quoted.before, hplain, ih hs]

end Line

section Run

-- A text cut behind each of its runs of a quote, and within a run behind every third quote.
inductive Runs (q : Char) : List Char → Prop
  | ending {j : Nat} (hj : j ≤ 2) : Runs q (List.replicate j q)
  | broken {j : Nat} {c : Char} {s : List Char} (hj : j ≤ 2) (hc : c ≠ q) (hs : Runs q s) :
    Runs q (List.replicate j q ++ c :: s)
  | full {s : List Char} (hs : Runs q s) : Runs q (List.replicate 3 q ++ s)

theorem runs_replicate_append (hj : j ≤ 2) (s : List Char) : Runs q (List.replicate j q ++ s) := by
  induction s generalizing j with
  | nil => simpa using Runs.ending hj
  | cons c s ih =>
    by_cases hc : c = q
    · subst hc
      have hmove : List.replicate j c ++ c :: s = List.replicate (j + 1) c ++ s := by
        rw [List.replicate_succ', List.append_assoc, List.singleton_append]
      rw [hmove]
      by_cases hlast : j = 2
      · subst hlast
        exact .full (ih (j := 0) (by omega))
      · exact ih (by omega)
    · exact .broken hj hc (ih (j := 0) (by omega))

theorem runs (q : Char) (s : List Char) : Runs q s := runs_replicate_append (j := 0) (by omega) s

-- Of the quotes at the end of a text, the first three close it.
theorem replicate_append_three (hj : j ≤ 2) (rest : List Char) :
    List.replicate j q ++ q :: q :: q :: rest = q :: q :: q :: (List.replicate j q ++ rest) := by
  interval_cases j <;> rfl

theorem closing_replicate (hj : j ≤ 2) (hrest : ∀ c ∈ rest.head?, c ≠ q) :
    closing q (List.replicate j q ++ rest) = (List.replicate j q, rest) := by
  cases rest with
  | nil => interval_cases j <;> simp [closing]
  | cons c rest =>
    have hc : c ≠ q := hrest c rfl
    interval_cases j <;> simp [closing, hc]

section Basic

theorem writeEscaped_replicate (hij : i + j ≤ 2) (s : List Char) :
    writeEscaped true i (List.replicate j '"' ++ s) =
      List.replicate j '"' ++ writeEscaped true (i + j) s := by
  induction j generalizing i with
  | zero => rfl
  | succ j ih =>
    have hi : i < 2 := by omega
    rw [List.replicate_succ, List.cons_append, writeEscaped, if_pos rfl, if_pos (by simpa using hi),
      ih (by omega), List.cons_append, Nat.add_right_comm, Nat.add_assoc]

theorem writeEscaped_full (s : List Char) :
    writeEscaped true 0 (List.replicate 3 '"' ++ s) =
      List.replicate 2 '"' ++ '\\' :: '"' :: writeEscaped true 0 s := rfl

-- Up to two quotes that are followed by something else are text.
theorem readLongBasic_replicate (hj : j ≤ 2) (hc : c ≠ '"')
    (h : readLongBasic false (c :: cs) = some (s, rest)) :
    readLongBasic false (List.replicate j '"' ++ c :: cs) = some (List.replicate j '"' ++ s, rest) := by
  have hplain : isPlain '"' = true := by decide
  interval_cases j <;> simp [readLongBasic, hplain, hc, h, Quoted.before]

theorem readLongBasic_escaped (hj : j ≤ 2) (hc : c ≠ '"')
    (h : readLongBasic false more = some (s, rest)) :
    readLongBasic false (List.replicate j '"' ++ (escaped true c ++ more)) =
      some (List.replicate j '"' ++ c :: s, rest) := by
  by_cases hend : c = '\n'
  · subst hend
    have hstep : readLongBasic false ('\n' :: more) = some ('\n' :: s, rest) := by
      simp [readLongBasic, Quoted.before, h]
    exact readLongBasic_replicate hj hc hstep
  · have hspelling : Spelling c (escaped true c) := spelling_escaped hc (.inr hend)
    have hstep := hspelling.readLongBasic_eq h
    obtain ⟨d, ds, hds, hd, -⟩ := hspelling.head
    rw [hds] at hstep ⊢
    exact readLongBasic_replicate hj hd hstep

theorem readLongBasic_writeEscaped (s : List Char) (hrest : ∀ c ∈ rest.head?, c ≠ '"') :
    readLongBasic false (writeEscaped true 0 s ++ '"' :: '"' :: '"' :: rest) = some (s, rest) := by
  induction runs '"' s with
  | @ending j hj =>
    have hwritten := writeEscaped_replicate (i := 0) (j := j) (by omega) []
    rw [List.append_nil, writeEscaped, List.append_nil] at hwritten
    rw [hwritten, replicate_append_three hj, readLongBasic, closing_replicate hj hrest]
  | broken hj hc _ ih =>
    rw [writeEscaped_replicate (by omega), writeEscaped_cons hc, List.append_assoc,
      List.append_assoc]
    exact readLongBasic_escaped hj hc ih
  | full _ ih =>
    rw [writeEscaped_full, List.append_assoc]
    exact readLongBasic_replicate (by omega) (by decide) (spelling_quote.readLongBasic_eq ih)

end Basic

section Literal

theorem le_longestRun (q : Char) (i : Nat) (s : List Char) : i ≤ longestRun q i s := by
  induction s generalizing i with
  | nil => exact le_rfl
  | cons c s ih =>
    rw [longestRun]
    split
    · exact (Nat.le_succ i).trans (ih (i + 1))
    · exact le_max_left ..

theorem longestRun_replicate (q : Char) (i j : Nat) (s : List Char) :
    longestRun q i (List.replicate j q ++ s) = longestRun q (i + j) s := by
  induction j generalizing i with
  | zero => rfl
  | succ j ih =>
    rw [List.replicate_succ, List.cons_append, longestRun, if_pos rfl, ih, Nat.add_right_comm,
      Nat.add_assoc]

theorem readLongLiteral_replicate (hj : j ≤ 2) (hc : c ≠ '\x27')
    (h : readLongLiteral (c :: cs) = some (s, rest)) :
    readLongLiteral (List.replicate j '\x27' ++ c :: cs) =
      some (List.replicate j '\x27' ++ s, rest) := by
  have hplain : isPlain '\x27' = true := by decide
  interval_cases j <;> simp [readLongLiteral, hplain, hc, h, Quoted.before]

theorem readLongLiteral_eq (hs : ∀ c ∈ s, isPlain c = true ∨ c = '\n')
    (hrun : longestRun '\x27' 0 s ≤ 2) (hrest : ∀ c ∈ rest.head?, c ≠ '\x27') :
    readLongLiteral (s ++ '\x27' :: '\x27' :: '\x27' :: rest) = some (s, rest) := by
  induction runs '\x27' s with
  | ending hj => rw [replicate_append_three hj, readLongLiteral, closing_replicate hj hrest]
  | @broken j c s hj hc _ ih =>
    rw [longestRun_replicate, longestRun, if_neg hc] at hrun
    obtain ⟨hplain, hs⟩ := List.forall_mem_cons.1 (List.forall_mem_append.1 hs).2
    rw [List.append_assoc]
    refine readLongLiteral_replicate hj hc ?_
    have hmore := ih hs (le_of_max_le_right hrun)
    obtain hplain | rfl := hplain
    · obtain ⟨hend, hreturn⟩ := isPlain_ne hplain
      simp [readLongLiteral, Quoted.before, *]
    · simp [readLongLiteral, Quoted.before, hmore]
  | @full s _ ih =>
    rw [longestRun_replicate] at hrun
    have := le_longestRun '\x27' (0 + 3) s
    omega

end Literal

end Run

section Style

theorem plain_of_hasControl (h : hasControl s = false) : ∀ c ∈ s, isPlain c = true ∨ c = '\n' := by
  intro c hc
  have hplain := List.any_eq_false.1 h c hc
  simp only [Bool.and_eq_true, Bool.not_eq_eq_eq_not, Bool.not_true, bne_iff_ne, not_and,
    not_not] at hplain
  by_cases h : isPlain c = true
  · exact .inl h
  · exact .inr (hplain (by simpa using h))

theorem forall_plain (hcontrol : hasControl s = false) (hend : hasLineEnd s = false) :
    ∀ c ∈ s, isPlain c = true := by
  intro c hc
  obtain h | rfl := plain_of_hasControl hcontrol c hc
  · exact h
  · simp [hasLineEnd, hc] at hend

theorem not_mem_of_longestRun (h : longestRun q 0 s = 0) : q ∉ s := by
  induction s with
  | nil => simp
  | cons c s ih =>
    rw [longestRun] at h
    split at h
    · have := le_longestRun q (0 + 1) s
      omega
    · next hc => simp [Ne.symm hc, ih (Nat.le_zero.1 (le_of_max_le_right h.le))]

-- What a text must be like to stand in a style. Between double quotes any text may stand.
def Style.Suits (s : List Char) : Style → Prop
  | .basic | .longBasic => True
  | .literal => hasControl s = false ∧ hasLineEnd s = false ∧ longestRun '\x27' 0 s = 0
  | .longLiteral => hasControl s = false ∧ longestRun '\x27' 0 s ≤ 2

theorem Style.suits_of (s : List Char) : (Style.of s).Suits s := by
  unfold Style.of
  dsimp only
  split
  · trivial
  split
  · next h =>
    simp only [Bool.and_eq_true, Bool.not_eq_eq_eq_not, Bool.not_true, decide_eq_true_eq] at h
    exact ⟨h.1.1, h.2, h.1.2⟩
  split
  · trivial
  split
  · next h => simpa [Style.Suits] using h
  split <;> trivial

-- A line end right after the opening quotes is there exactly if the text has one anywhere.
theorem skipLineEnd_opening (h : hasLineEnd s = false → ∀ c ∈ cs.head?, isPlain c = true) :
    skipLineEnd (opening s ++ cs) = cs := by
  rw [opening]
  split
  · rfl
  · next hend =>
    cases cs with
    | nil => rfl
    | cons c cs =>
      obtain ⟨hend, hreturn⟩ := isPlain_ne (h (by simpa using hend) c rfl)
      simp [skipLineEnd, hend, hreturn]

-- Three double quotes in front would open a text over several lines instead.
theorem head_writeEscaped_basic (hs : s ≠ []) : ∀ c ∈ (writeEscaped false 0 s ++ more).head?, c ≠ '"' := by
  cases s with
  | nil => exact absurd rfl hs
  | cons c s =>
    by_cases hc : c = '"'
    · subst hc
      simp [writeEscaped]
    · have hspelling : Spelling c (escaped false c) := spelling_escaped hc (.inl rfl)
      obtain ⟨d, ds, hds, hd, -⟩ := hspelling.head
      simpa [writeEscaped_cons hc, hds] using hd

theorem head_writeEscaped_long (hend : hasLineEnd s = false) :
    ∀ c ∈ (writeEscaped true 0 s ++ '"' :: more).head?, isPlain c = true := by
  have hquote : isPlain '"' = true := by decide
  cases s with
  | nil => simpa [writeEscaped] using hquote
  | cons c s =>
    by_cases hc : c = '"'
    · subst hc
      simpa [writeEscaped] using hquote
    · have hne : c ≠ '\n' := by
        rintro rfl
        simp [hasLineEnd] at hend
      have hspelling : Spelling c (escaped true c) := spelling_escaped hc (.inr hne)
      obtain ⟨d, ds, hds, -, hd⟩ := hspelling.head
      simpa [writeEscaped_cons hc, hds] using hd

theorem head_literal (hcontrol : hasControl s = false) (hend : hasLineEnd s = false) :
    ∀ c ∈ (s ++ '\x27' :: more).head?, isPlain c = true := by
  cases s with
  | nil =>
    have hquote : isPlain '\x27' = true := by decide
    simpa using hquote
  | cons c s => simpa using forall_plain hcontrol hend c List.mem_cons_self

theorem readText_basic (h : ∀ more, cs ≠ '"' :: '"' :: more) : readText ('"' :: cs) = readBasic cs := by
  simp [readText]

theorem readText_literal (h : ∀ more, cs ≠ '\x27' :: '\x27' :: more) :
    readText ('\x27' :: cs) = readLiteral cs := by
  simp [readText]

theorem readText_writeAs {style : Style} (h : style.Suits s)
    (hrest : ∀ c ∈ rest.head?, c ≠ '"' ∧ c ≠ '\x27') :
    readText (writeAs s style ++ rest) = some (s, rest) := by
  cases style with
  | basic =>
    have hopen : ∀ more, writeEscaped false 0 s ++ '"' :: rest ≠ '"' :: '"' :: more := by
      intro more heq
      by_cases hs : s = []
      · subst hs
        obtain rfl : rest = '"' :: more := (List.cons.inj heq).2
        exact (hrest '"' rfl).1 rfl
      · exact head_writeEscaped_basic hs '"' (by rw [heq]; rfl) rfl
    rw [writeAs, List.append_assoc, List.cons_append]
    exact (readText_basic hopen).trans (readBasic_writeEscaped s rest)
  | literal =>
    obtain ⟨hcontrol, hend, hrun⟩ := h
    have hquote := not_mem_of_longestRun hrun
    have hopen : ∀ more, s ++ '\x27' :: rest ≠ '\x27' :: '\x27' :: more := by
      intro more heq
      cases s with
      | nil =>
        obtain rfl : rest = '\x27' :: more := (List.cons.inj heq).2
        exact (hrest '\x27' rfl).2 rfl
      | cons c s => exact hquote ((List.cons.inj heq).1 ▸ List.mem_cons_self)
    rw [writeAs, List.append_assoc, List.cons_append]
    exact (readText_literal hopen).trans (readLiteral_eq (fun c hc =>
      ⟨forall_plain hcontrol hend c hc, ne_of_mem_of_not_mem hc hquote⟩) rest)
  | longBasic =>
    have hskip : skipLineEnd (opening s ++ (writeEscaped true 0 s ++ '"' :: '"' :: '"' :: rest)) = _ :=
      skipLineEnd_opening head_writeEscaped_long
    have hread := readLongBasic_writeEscaped s fun c hc => (hrest c hc).1
    simp only [writeAs, List.append_assoc, List.cons_append, List.nil_append, readText, hskip, hread]
  | longLiteral =>
    obtain ⟨hcontrol, hrun⟩ := h
    have hskip : skipLineEnd (opening s ++ (s ++ '\x27' :: '\x27' :: '\x27' :: rest)) = _ :=
      skipLineEnd_opening (head_literal hcontrol)
    have hread := readLongLiteral_eq (plain_of_hasControl hcontrol) hrun fun c hc => (hrest c hc).2
    simp only [writeAs, List.append_assoc, List.cons_append, List.nil_append, readText, hskip, hread]

theorem readText_writeText (s : List Char) (hrest : ∀ c ∈ rest.head?, c ≠ '"' ∧ c ≠ '\x27') :
    readText (writeText s ++ rest) = some (s, rest) :=
  readText_writeAs (Style.suits_of s) hrest

end Style

end Stepwise.Toml
