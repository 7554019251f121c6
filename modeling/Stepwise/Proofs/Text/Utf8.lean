import Stepwise.Text.Utf8

namespace Stepwise.Text

variable {c d : Char} {cs ds : List Char} {m n k value taken : Nat} {low high : UInt8}
  {bytes rest : List UInt8}

-- The four lengths of a sequence. Its bytes carry the digits of the character's number in base 64,
-- the first of them with a mark of the length.
inductive Encoded (n : Nat) : List UInt8 → Prop
  | one (h : n < 0x80) : Encoded n [n.toUInt8]
  | two {i j : Nat} (h : n = i * 64 + j) (hj : j < 64) (hlow : 0x80 ≤ n) (hhigh : n < 0x800) :
    Encoded n [(0xC0 + i).toUInt8, (0x80 + j).toUInt8]
  | three {i j k : Nat} (h : n = (i * 64 + j) * 64 + k) (hj : j < 64) (hk : k < 64)
    (hlow : 0x800 ≤ n) (hhigh : n < 0x10000) (hvalid : n < 0xD800 ∨ 0xDFFF < n) :
    Encoded n [(0xE0 + i).toUInt8, (0x80 + j).toUInt8, (0x80 + k).toUInt8]
  | four {i j k l : Nat} (h : n = ((i * 64 + j) * 64 + k) * 64 + l) (hj : j < 64) (hk : k < 64)
    (hl : l < 64) (hlow : 0x10000 ≤ n) (hhigh : n < 0x110000) :
    Encoded n [(0xF0 + i).toUInt8, (0x80 + j).toUInt8, (0x80 + k).toUInt8, (0x80 + l).toUInt8]

theorem encoded_encodeChar (c : Char) : Encoded c.toNat (encodeChar c) := by
  have hvalid : c.toNat < 0xD800 ∨ 0xDFFF < c.toNat ∧ c.toNat < 0x110000 := c.valid
  unfold encodeChar
  dsimp only
  split
  · next h => exact .one h
  · next h =>
    split
    · next h' => exact .two (by omega) (by omega) (by omega) h'
    · next h' =>
      split
      · next h'' =>
        exact .three (by omega) (by omega) (by omega) (by omega) h'' (by omega)
      · exact .four (by omega) (by omega) (by omega) (by omega) (by omega) (by omega)

theorem toUInt8_lt_iff : m.toUInt8 < n.toUInt8 ↔ m % 256 < n % 256 := UInt8.lt_iff_toNat_lt

theorem toUInt8_eq_iff : m.toUInt8 = n.toUInt8 ↔ m % 256 = n % 256 := UInt8.toNat_inj.symm

-- A longer sequence has a greater first byte, and sequences of one length compare digit by digit.
theorem Encoded.append_lt (hm : Encoded m bytes) (hn : Encoded n rest) (h : m < n)
    (xs ys : List UInt8) : bytes ++ xs < rest ++ ys := by
  cases hm <;> cases hn
  all_goals
    simp only [List.cons_append, List.nil_append, List.cons_lt_cons_iff, toUInt8_lt_iff,
      toUInt8_eq_iff]
    omega

theorem Encoded.ne_nil (h : Encoded n bytes) : bytes ≠ [] := by
  cases h <;> simp

-- The order of texts by their characters is the order by their bytes.
theorem encode_lt_encode (h : cs < ds) : encode cs < encode ds := by
  induction h with
  | @nil d ds =>
    rw [show encode (d :: ds) = encodeChar d ++ encode ds from List.flatMap_cons]
    obtain ⟨b, rest, hbytes⟩ := List.exists_cons_of_ne_nil (encoded_encodeChar d).ne_nil
    rw [hbytes]
    exact List.nil_lt_cons ..
  | @rel c cs d ds hlt =>
    exact (encoded_encodeChar c).append_lt (encoded_encodeChar d) hlt (encode cs) (encode ds)
  | @cons c cs ds _ ih =>
    have hrest : encodeChar c ++ encode cs < encodeChar c ++ encode ds := List.append_left_lt ih
    exact hrest

theorem leadOf?_toUInt8 (h : k < 0x100) : leadOf? k.toUInt8 =
    if k < 0x80 then some ⟨0, 0, 0, k⟩
    else if 0xC2 ≤ k ∧ k ≤ 0xDF then some ⟨1, 0x80, 0xBF, k - 0xC0⟩
    else if k = 0xE0 then some ⟨2, 0xA0, 0xBF, 0⟩
    else if k = 0xED then some ⟨2, 0x80, 0x9F, 0xD⟩
    else if 0xE1 ≤ k ∧ k ≤ 0xEF then some ⟨2, 0x80, 0xBF, k - 0xE0⟩
    else if k = 0xF0 then some ⟨3, 0x90, 0xBF, 0⟩
    else if 0xF1 ≤ k ∧ k ≤ 0xF3 then some ⟨3, 0x80, 0xBF, k - 0xF0⟩
    else if k = 0xF4 then some ⟨3, 0x80, 0x8F, 4⟩
    else none := by
  have hnat : k.toUInt8.toNat = k := Nat.mod_eq_of_lt h
  simp only [leadOf?, UInt8.lt_iff_toNat_lt, UInt8.le_iff_toNat_le, ← UInt8.toNat_inj, hnat]
  rfl

-- A byte that carries one more digit.
theorem continueSeq_tail (hlow : low.toNat ≤ 0x80 + k) (hhigh : 0x80 + k ≤ high.toNat) :
    continueSeq (m + 1) low high value taken ((0x80 + k).toUInt8 :: rest) =
      continueSeq m 0x80 0xBF (value * 64 + k) (taken + 1) rest := by
  have hbound := high.toNat_lt
  have hnat : (0x80 + k).toUInt8.toNat = 0x80 + k := Nat.mod_eq_of_lt (by omega)
  have hbyte : low ≤ (0x80 + k).toUInt8 ∧ (0x80 + k).toUInt8 ≤ high := by
    rw [UInt8.le_iff_toNat_le, UInt8.le_iff_toNat_le, hnat]
    exact ⟨hlow, hhigh⟩
  rw [continueSeq, if_pos hbyte, hnat, Nat.add_sub_cancel_left]

theorem continueSeq_zero : continueSeq 0 low high value taken rest = (some value, taken) := by
  cases rest <;> rfl

theorem firstChar_of_leadOf? {b : UInt8} (hlead : leadOf? b = some ⟨m, low, high, value⟩)
    (hseq : continueSeq m low high value 0 rest = (some n, k)) :
    firstChar b rest = (some (Char.ofNat n), k) := by
  simp only [firstChar, hlead, hseq]

-- The number is found again. After the first bytes `E0`, `ED`, `F0` and `F4` the next byte has a
-- smaller range, which leaves out shorter numbers, surrogates and numbers that are too large.
theorem Encoded.firstChar_eq (h : Encoded n bytes) (rest : List UInt8) :
    ∃ b more, bytes = b :: more ∧
      firstChar b (more ++ rest) = (some (Char.ofNat n), more.length) := by
  cases h with
  | one h =>
    have hlead : leadOf? n.toUInt8 = some ⟨0, 0, 0, n⟩ := by
      rw [leadOf?_toUInt8 (by omega), if_pos h]
    exact ⟨_, [], rfl, firstChar_of_leadOf? hlead continueSeq_zero⟩
  | @two i j h hj hlow hhigh =>
    have hlead : leadOf? (0xC0 + i).toUInt8 = some ⟨1, 0x80, 0xBF, i⟩ := by
      rw [leadOf?_toUInt8 (by omega), if_neg (by omega), if_pos (by omega),
        Nat.add_sub_cancel_left]
    refine ⟨_, _, rfl, firstChar_of_leadOf? hlead ?_⟩
    rw [List.cons_append, continueSeq_tail (Nat.le_add_right _ _) (by simp; omega),
      continueSeq_zero, h]
    rfl
  | @three i j k h hj hk hlow hhigh hvalid =>
    have hlead : ∃ low high : UInt8, leadOf? (0xE0 + i).toUInt8 = some ⟨2, low, high, i⟩ ∧
        low.toNat ≤ 0x80 + j ∧ 0x80 + j ≤ high.toNat := by
      rw [leadOf?_toUInt8 (by omega), if_neg (by omega), if_neg (by omega)]
      split
      · obtain rfl : i = 0 := by omega
        exact ⟨0xA0, 0xBF, rfl, by simp; omega, by simp; omega⟩
      · split
        · obtain rfl : i = 0xD := by omega
          exact ⟨0x80, 0x9F, rfl, by simp, by simp; omega⟩
        · rw [if_pos (by omega), Nat.add_sub_cancel_left]
          exact ⟨0x80, 0xBF, rfl, by simp, by simp; omega⟩
    obtain ⟨low, high, hlead, hleast, hmost⟩ := hlead
    refine ⟨_, _, rfl, firstChar_of_leadOf? hlead ?_⟩
    rw [List.cons_append, List.cons_append, continueSeq_tail hleast hmost,
      continueSeq_tail (Nat.le_add_right _ _) (by simp; omega), continueSeq_zero, h]
    rfl
  | @four i j k l h hj hk hl hlow hhigh =>
    have hlead : ∃ low high : UInt8, leadOf? (0xF0 + i).toUInt8 = some ⟨3, low, high, i⟩ ∧
        low.toNat ≤ 0x80 + j ∧ 0x80 + j ≤ high.toNat := by
      rw [leadOf?_toUInt8 (by omega), if_neg (by omega), if_neg (by omega), if_neg (by omega),
        if_neg (by omega), if_neg (by omega)]
      split
      · obtain rfl : i = 0 := by omega
        exact ⟨0x90, 0xBF, rfl, by simp; omega, by simp; omega⟩
      · split
        · rw [Nat.add_sub_cancel_left]
          exact ⟨0x80, 0xBF, rfl, by simp, by simp; omega⟩
        · obtain rfl : i = 4 := by omega
          rw [if_pos rfl]
          exact ⟨0x80, 0x8F, rfl, by simp, by simp; omega⟩
    obtain ⟨low, high, hlead, hleast, hmost⟩ := hlead
    refine ⟨_, _, rfl, firstChar_of_leadOf? hlead ?_⟩
    rw [List.cons_append, List.cons_append, List.cons_append, continueSeq_tail hleast hmost,
      continueSeq_tail (Nat.le_add_right _ _) (by simp; omega),
      continueSeq_tail (Nat.le_add_right _ _) (by simp; omega), continueSeq_zero, h]
    rfl

theorem decode?_encode (cs : List Char) : decode? (encode cs) = some cs := by
  induction cs with
  | nil => rw [encode, List.flatMap_nil, decode?]
  | cons c cs ih =>
    obtain ⟨b, more, hbytes, hchar⟩ := (encoded_encodeChar c).firstChar_eq (encode cs)
    rw [show encode (c :: cs) = encodeChar c ++ encode cs from List.flatMap_cons, hbytes,
      List.cons_append, decode?]
    simp only [hchar, Char.ofNat_toNat, List.drop_left, ih, Option.map_some]

end Stepwise.Text
