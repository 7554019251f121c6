import Stepwise.Proofs.Text.Truncate

namespace Stepwise.Text

variable {c : Char} {cs : List Char} {cap k m n taken value : Nat} {low high b : UInt8}
  {bytes rest : List UInt8} {s : String}

theorem taken_of_continueSeq (h : continueSeq m low high value taken bytes = (some n, k)) :
    k = taken + m := by
  induction m generalizing low high value taken bytes with
  | zero =>
    rw [continueSeq_zero] at h
    exact (Prod.mk.inj h).2.symm
  | succ m ih =>
    cases bytes with
    | nil => cases h
    | cons b bytes =>
      rw [continueSeq] at h
      split at h
      · have htaken := ih h
        omega
      · cases h

-- A sequence that is cut short is taken as far as it goes.
theorem continueSeq_take (h : continueSeq m low high value taken bytes = (some n, taken + m))
    (hk : k < m) : continueSeq m low high value taken (bytes.take k) = (none, taken + k) := by
  induction m generalizing low high value taken bytes k with
  | zero => omega
  | succ m ih =>
    cases bytes with
    | nil => cases h
    | cons b bytes =>
      rw [continueSeq] at h
      split at h
      · next hb =>
        cases k with
        | zero => rfl
        | succ k =>
          have hsum (i : Nat) : taken + (i + 1) = taken + 1 + i := by omega
          rw [hsum m] at h
          rw [List.take_succ_cons, continueSeq, if_pos hb, hsum k]
          exact ih h (Nat.lt_of_succ_lt_succ hk)
      · cases h

theorem firstChar_take (h : firstChar b rest = (some c, n)) (hk : k < n) :
    firstChar b (rest.take k) = (none, k) := by
  unfold firstChar at h ⊢
  cases hlead : leadOf? b with
  | none =>
    rw [hlead] at h
    cases h
  | some lead =>
    simp only [hlead] at h ⊢
    cases hseq : continueSeq lead.more lead.low lead.high lead.bits 0 rest with
    | mk value taken =>
      rw [hseq] at h
      cases value with
      | none => cases h
      | some value =>
        obtain rfl : taken = n := (Prod.mk.inj h).2
        have htaken := taken_of_continueSeq hseq
        rw [htaken] at hseq hk
        rw [continueSeq_take hseq (by omega), Nat.zero_add]

theorem decodeLossy_encode_append (cs : List Char) (bytes : List UInt8) :
    decodeLossy (encode cs ++ bytes) = cs ++ decodeLossy bytes := by
  induction cs with
  | nil => rfl
  | cons c cs ih =>
    obtain ⟨b, more, hbytes, hchar⟩ := (encoded_encodeChar c).firstChar_eq (encode cs ++ bytes)
    rw [encode_cons, hbytes, List.append_assoc, List.cons_append, decodeLossy]
    simp only [hchar, Char.ofNat_toNat, List.drop_left, ih, Option.getD_some, List.cons_append]

-- The first bytes of a character, not all of them, are one broken sequence.
theorem decodeLossy_take_encodeChar (hpos : 0 < k) (hlt : k < c.utf8Size) :
    decodeLossy ((encodeChar c).take k) = [replacement] := by
  obtain ⟨b, more, hbytes, hchar⟩ := (encoded_encodeChar c).firstChar_eq []
  rw [List.append_nil] at hchar
  rw [← length_encodeChar, hbytes, List.length_cons] at hlt
  obtain ⟨k, rfl⟩ : ∃ j, k = j + 1 := ⟨k - 1, by omega⟩
  have hbroken := firstChar_take hchar (k := k) (by omega)
  rw [hbytes, List.take_succ_cons, decodeLossy]
  simp only [hbroken, Option.getD_none]
  rw [List.drop_of_length_le (by rw [List.length_take]; omega), decodeLossy]

-- The first bytes of a text are the characters that lie within them, and a replacement where a
-- character is cut.
theorem decodeLossy_take_encode (h : LongestWithin n cs s) :
    decodeLossy ((encode cs).take n) =
      if s.utf8ByteSize < n ∧ s.toList ≠ cs then s.toList ++ [replacement] else s.toList := by
  obtain ⟨hfits, hend⟩ := longestWithin_iff.1 h
  have hsize := utf8ByteSize_eq s
  rcases hend with rfl | ⟨c, rest, rfl, hnext⟩
  · rw [if_neg (fun hcut => hcut.2 rfl), List.take_of_length_le (by omega),
      ← List.append_nil (encode s.toList), decodeLossy_encode_append, decodeLossy, List.append_nil]
  · have hfit : n - (encode s.toList).length ≤ (encodeChar c).length := by
      rw [length_encodeChar]
      omega
    rw [encode_append, List.take_append, List.take_of_length_le (by omega), encode_cons,
      List.take_append_of_le_length hfit, decodeLossy_encode_append, ← hsize]
    by_cases hlt : s.utf8ByteSize < n
    · rw [if_pos ⟨hlt, by simp⟩, decodeLossy_take_encodeChar (by omega) (by omega)]
    · rw [if_neg (fun hcut => hlt hcut.1), Nat.sub_eq_zero_of_le (by omega), List.take_zero,
        decodeLossy, List.append_nil]

end Stepwise.Text
