import Stepwise.Proofs.Text.Digits
import Stepwise.Proofs.Toml.Text
import Stepwise.Toml.Reader

namespace Stepwise.Toml

open Text (ne_of_isDigit isDigit_toDigits exists_toDigits head_toDigits)

variable {c d : Char} {n : Nat} {digits rest : List Char}

section Digits

theorem digitValue?_of_isDigit (hc : c.isDigit = true) :
    digitValue? c = some (c.toNat - '0'.toNat) ∧ c.toNat - '0'.toNat < 10 := by
  refine ⟨if_pos hc, ?_⟩
  simp only [Char.isDigit, Bool.and_eq_true, decide_eq_true_eq] at hc
  have hhigh : c.toNat ≤ 57 := hc.2
  have hzero : '0'.toNat = 48 := rfl
  omega

theorem isDigitIn_of_isDigit (hc : c.isDigit = true) : ungrouped?.isDigitIn 10 c = true := by
  obtain ⟨hvalue, hlow⟩ := digitValue?_of_isDigit hc
  simpa only [ungrouped?.isDigitIn, hvalue, decide_eq_true_eq] using hlow

theorem ungrouped?_digits (hne : digits ≠ []) (h : ∀ c ∈ digits, c.isDigit = true) :
    ungrouped? 10 digits = some digits := by
  induction digits with
  | nil => exact absurd rfl hne
  | cons c rest ih =>
    obtain ⟨hc, hrest⟩ := List.forall_mem_cons.1 h
    cases rest with
    | nil => simp [ungrouped?, isDigitIn_of_isDigit hc]
    | cons d rest =>
      have hd : d ≠ '_' := ne_of_isDigit (hrest d List.mem_cons_self) (by decide)
      have hih := ih (by simp) hrest
      simp [ungrouped?, isDigitIn_of_isDigit hc, hd, hih]

theorem valueIn?_digits (h : ∀ c ∈ digits, c.isDigit = true) :
    valueIn? 10 digits = some (Nat.ofDigitChars 10 digits 0) := by
  have onward (start : Nat) : digits.foldlM (fun n c => do
      let d ← digitValue? c
      if d < 10 then some (n * 10 + d) else none) start =
        some (Nat.ofDigitChars 10 digits start) := by
    induction digits generalizing start with
    | nil => simp
    | cons c rest ih =>
      obtain ⟨hc, hrest⟩ := List.forall_mem_cons.1 h
      obtain ⟨hvalue, hlow⟩ := digitValue?_of_isDigit hc
      rw [List.foldlM_cons, Nat.ofDigitChars_cons, ← ih hrest]
      simp only [hvalue, Option.bind_eq_bind, Option.bind_some, if_pos hlow, Nat.mul_comm start]
  exact onward 0

-- A text of digits alone has no sign and no mark of a base.
theorem integer?_digits (h : ∀ c ∈ digits, c.isDigit = true) :
    integer? digits =
      (wholePart? digits).bind fun digits => (valueIn? 10 digits).bind (integerOf? false) := by
  have hother (d : Char) (hd : d.isDigit = false) : d ∉ digits := fun hmem =>
    ne_of_isDigit (h d hmem) hd rfl
  have hplain : Decimal.splitSign digits = (false, digits) := by
    unfold Decimal.splitSign
    split
    · exact absurd (by simp) (hother '-' (by decide))
    · exact absurd (by simp) (hother '+' (by decide))
    · rfl
  unfold integer?
  split
  · exact absurd (by simp) (hother 'x' (by decide))
  · exact absurd (by simp) (hother 'o' (by decide))
  · exact absurd (by simp) (hother 'b' (by decide))
  · rw [hplain]
    rfl

end Digits

section Number

theorem wholePart?_toDigits (n : Nat) :
    wholePart? (Nat.toDigits 10 n) = some (Nat.toDigits 10 n) := by
  rw [wholePart?, ungrouped?_digits Nat.toDigits_ne_nil (isDigit_toDigits n)]
  split
  · next hdigits =>
    obtain rfl : n = 0 := by
      by_contra hn
      exact head_toDigits (Nat.pos_of_ne_zero hn) '0' (by rw [Option.some.inj hdigits]; rfl) rfl
    cases hdigits
  · rfl

theorem integer?_toDigits (hn : n < 0x8000000000000000) :
    integer? (Nat.toDigits 10 n) = some (n : Int) := by
  rw [integer?_digits (isDigit_toDigits n), wholePart?_toDigits,
    Option.bind_some, valueIn?_digits (isDigit_toDigits n), Nat.ofDigitChars_ten_toDigits,
    Option.bind_some, integerOf?, if_neg (by decide), if_pos hn]

theorem word?_toDigits (hn : n < 0x8000000000000000) :
    word? (Nat.toDigits 10 n) = some (.integer n) := by
  obtain ⟨c, cs, hdigits, hc⟩ := exists_toDigits n
  have ht : c ≠ 't' := ne_of_isDigit hc (by decide)
  have hf : c ≠ 'f' := ne_of_isDigit hc (by decide)
  have hinteger := integer?_toDigits hn
  rw [hdigits] at hinteger ⊢
  simp [word?, ht, hf, hinteger]

theorem readWord_toDigits (hn : n < 0x8000000000000000) (rest : List Char) :
    readWord (Nat.toDigits 10 n ++ '\n' :: rest) = some (.integer n, '\n' :: rest) := by
  have hword : ∀ c ∈ Nat.toDigits 10 n, isWordChar c = true := fun c hc => by
    simp [isWordChar, Char.isAlphanum, isDigit_toDigits n c hc]
  have hend : isWordChar '\n' = false := by decide
  rw [readWord, List.takeWhile_append_of_pos hword, List.dropWhile_append_of_pos hword,
    List.takeWhile_cons_of_neg (by simp [hend]), List.dropWhile_cons_of_neg (by simp [hend]),
    List.append_nil, word?_toDigits hn]
  rfl

end Number

section Scalar

-- What a line gives a name.
inductive Scalar
  | number (n : Nat)
  | text (s : String)

namespace Scalar

def written : Scalar → List Char
  | number n => Nat.toDigits 10 n
  | text s => writeText s.toList

def node : Scalar → Node
  | number n => .integer n
  | text s => .text s

-- Numbers have 64 bits with their sign.
def Proper : Scalar → Prop
  | number n => n < 0x8000000000000000
  | text _ => True

end Scalar

theorem head_writeText (s : List Char) : ∃ q cs, writeText s = q :: cs ∧ (q = '"' ∨ q = '\x27') := by
  unfold writeText
  cases Style.of s
  · exact ⟨'"', _, rfl, .inl rfl⟩
  · exact ⟨'\x27', _, rfl, .inr rfl⟩
  · exact ⟨'"', _, rfl, .inl rfl⟩
  · exact ⟨'\x27', _, rfl, .inr rfl⟩

theorem Scalar.head_written (v : Scalar) :
    ∃ c cs, v.written = c :: cs ∧ isBlank c = false ∧ c ≠ '[' ∧ c ≠ '\x7b' := by
  cases v with
  | number n =>
    obtain ⟨c, cs, hdigits, hc⟩ := exists_toDigits n
    have hblank : isBlank c = false := by
      simp [isBlank, ne_of_isDigit hc (d := ' ') rfl, ne_of_isDigit hc (d := '\t') rfl]
    exact ⟨c, cs, hdigits, hblank, ne_of_isDigit hc (by decide), ne_of_isDigit hc (by decide)⟩
  | text s =>
    obtain ⟨q, cs, htext, hq⟩ := head_writeText s.toList
    refine ⟨q, cs, htext, ?_⟩
    obtain rfl | rfl := hq <;> decide

theorem Scalar.skipBlanks_written (v : Scalar) (rest : List Char) :
    skipBlanks (v.written ++ rest) = v.written ++ rest := by
  obtain ⟨c, cs, hwritten, hc, -⟩ := v.head_written
  simp [hwritten, skipBlanks, hc]

theorem readFlat_number (hn : n < 0x8000000000000000) (rest : List Char) :
    readValue.readFlat (Nat.toDigits 10 n ++ '\n' :: rest) = some (.integer n, '\n' :: rest) := by
  rw [← readWord_toDigits hn rest]
  obtain ⟨c, cs, hdigits, hc⟩ := exists_toDigits n
  have hdouble : c ≠ '"' := ne_of_isDigit hc (by decide)
  have hsingle : c ≠ '\x27' := ne_of_isDigit hc (by decide)
  simp [hdigits, readValue.readFlat, hdouble, hsingle]

theorem readFlat_text (s : String) (rest : List Char) :
    readValue.readFlat (writeText s.toList ++ '\n' :: rest) = some (.text s, '\n' :: rest) := by
  have hread : readText (writeText s.toList ++ '\n' :: rest) = some (s.toList, '\n' :: rest) :=
    readText_writeText s.toList (by simp)
  obtain ⟨q, cs, hwritten, hq⟩ := head_writeText s.toList
  rw [hwritten, List.cons_append] at hread ⊢
  obtain rfl | rfl := hq <;>
    simp only [readValue.readFlat, hread, Option.map_some, String.ofList_toList]

theorem Scalar.Proper.readValue_eq {v : Scalar} (h : v.Proper) (depth : Nat) (rest : List Char) :
    readValue (depth + 1) (v.written ++ '\n' :: rest) = some (v.node, '\n' :: rest) := by
  have hflat : readValue.readFlat (v.written ++ '\n' :: rest) = some (v.node, '\n' :: rest) := by
    cases v with
    | number n => exact readFlat_number h rest
    | text s => exact readFlat_text s rest
  rw [← hflat]
  obtain ⟨c, cs, hwritten, -, hbracket, hbrace⟩ := v.head_written
  simp [hwritten, readValue, hbracket, hbrace]

end Scalar

end Stepwise.Toml
