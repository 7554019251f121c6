import Mathlib.Data.List.Infix
import Stepwise.Proofs.Text.Utf8

namespace Stepwise.Text

variable {c : Char} {cs ds : List Char} {cap n place : Nat} {b : UInt8} {bytes : List UInt8}
  {s t : String}

theorem encode_nil : encode [] = [] := rfl

theorem encode_cons : encode (c :: cs) = encodeChar c ++ encode cs := List.flatMap_cons

theorem encode_append : encode (cs ++ ds) = encode cs ++ encode ds := List.flatMap_append

theorem length_encodeChar (c : Char) : (encodeChar c).length = c.utf8Size := by
  have hle (k : UInt32) : c.val ≤ k ↔ c.toNat ≤ k.toNat := UInt32.le_iff_toNat_le
  have hlt (k : UInt32) : k < c.val ↔ k.toNat < c.toNat := UInt32.lt_iff_toNat_lt
  unfold encodeChar
  dsimp only
  split
  · next h =>
    have hsize : c.utf8Size = 1 := by
      rw [Char.utf8Size_eq_one_iff, hle]
      exact Nat.le_of_lt_succ h
    rw [hsize, List.length_singleton]
  · next h =>
    split
    · next h' =>
      have hsize : c.utf8Size = 2 := by
        rw [Char.utf8Size_eq_two_iff, hlt, hle]
        exact ⟨Nat.not_lt.1 h, Nat.le_of_lt_succ h'⟩
      rw [hsize]
      rfl
    · next h' =>
      split
      · next h'' =>
        have hsize : c.utf8Size = 3 := by
          rw [Char.utf8Size_eq_three_iff, hlt, hle]
          exact ⟨Nat.not_lt.1 h', Nat.le_of_lt_succ h''⟩
        rw [hsize]
        rfl
      · next h'' =>
        have hsize : c.utf8Size = 4 := by
          rw [Char.utf8Size_eq_four_iff, hlt]
          exact Nat.not_lt.1 h''
        rw [hsize]
        rfl

theorem utf8ByteSize_ofList (cs : List Char) :
    (String.ofList cs).utf8ByteSize = (encode cs).length := by
  induction cs with
  | nil => rfl
  | cons c cs ih =>
    rw [encode_cons, List.length_append, length_encodeChar, ← ih, ← List.singleton_append,
      String.ofList_append, String.utf8ByteSize_append, ← String.singleton_eq_ofList,
      String.utf8ByteSize_singleton]

theorem utf8ByteSize_eq (s : String) : s.utf8ByteSize = (encode s.toList).length := by
  rw [← utf8ByteSize_ofList, String.ofList_toList]

theorem isContinuation_toUInt8 (hn : n < 0x100) :
    isContinuation n.toUInt8 = decide (0x80 ≤ n ∧ n < 0xC0) := by
  have hnat : n.toUInt8.toNat = n := Nat.mod_eq_of_lt hn
  simp [isContinuation, UInt8.le_iff_toNat_le, UInt8.lt_iff_toNat_lt, hnat]

-- The first byte of a character begins it, the others go on with it.
theorem Encoded.exists_cons (h : Encoded n bytes) :
    ∃ b more, bytes = b :: more ∧ isContinuation b = false ∧
      ∀ x ∈ more, isContinuation x = true := by
  have htail (k : Nat) (hk : k < 64) : isContinuation (0x80 + k).toUInt8 = true := by
    rw [isContinuation_toUInt8 (by omega)]
    simp
    omega
  cases h with
  | one h =>
    refine ⟨_, [], rfl, ?_, nofun⟩
    rw [isContinuation_toUInt8 (by omega)]
    simp
    omega
  | @two i j h hj hlow hhigh =>
    refine ⟨_, _, rfl, ?_, List.forall_mem_singleton.2 (htail j hj)⟩
    rw [isContinuation_toUInt8 (by omega)]
    simp
  | @three i j k h hj hk hlow hhigh hvalid =>
    refine ⟨_, _, rfl, ?_, List.forall_mem_cons.2 ⟨htail j hj,
      List.forall_mem_singleton.2 (htail k hk)⟩⟩
    rw [isContinuation_toUInt8 (by omega)]
    simp
    omega
  | @four i j k l h hj hk hl hlow hhigh =>
    refine ⟨_, _, rfl, ?_, List.forall_mem_cons.2 ⟨htail j hj, List.forall_mem_cons.2 ⟨htail k hk,
      List.forall_mem_singleton.2 (htail l hl)⟩⟩⟩
    rw [isContinuation_toUInt8 (by omega)]
    simp
    omega

theorem isBoundary_zero : isBoundary bytes 0 = true := rfl

-- Behind a character it depends on the rest alone where a text may be cut.
theorem isBoundary_encode_cons (place : Nat) :
    isBoundary (encode (c :: cs)) ((encodeChar c).length + place) =
      isBoundary (encode cs) place := by
  have hpos : (encodeChar c).length ≠ 0 := by
    simpa using (encoded_encodeChar c).ne_nil
  have hget : (encode (c :: cs))[(encodeChar c).length + place]? = (encode cs)[place]? := by
    rw [encode_cons, List.getElem?_append_right (by omega), Nat.add_sub_cancel_left]
  have hlength : (encode (c :: cs)).length = (encodeChar c).length + (encode cs).length := by
    rw [encode_cons, List.length_append]
  by_cases hplace : place = 0
  · subst hplace
    rw [isBoundary_zero, isBoundary, hget, hlength]
    cases cs with
    | nil => simp [encode]
    | cons d ds =>
      obtain ⟨b, more, hbytes, hfirst, -⟩ := (encoded_encodeChar d).exists_cons
      simp [encode_cons, hbytes, hfirst]
  · have hne : (encodeChar c).length + place ≠ 0 := by omega
    unfold isBoundary
    rw [hget, hlength]
    rw [beq_false_of_ne hne, beq_false_of_ne hplace]
    cases (encode cs)[place]? with
    | some b => rfl
    | none => simp

theorem isBoundary_encode_cons_of_lt (hpos : 0 < place) (hlt : place < (encodeChar c).length) :
    isBoundary (encode (c :: cs)) place = false := by
  obtain ⟨b, more, hbytes, -, hmore⟩ := (encoded_encodeChar c).exists_cons
  obtain ⟨k, rfl⟩ : ∃ k, place = k + 1 := ⟨place - 1, by omega⟩
  rw [hbytes, List.length_cons] at hlt
  have hget : (encode (c :: cs))[k + 1]? = some more[k] := by
    rw [encode_cons, hbytes, List.getElem?_append_left (by simpa using hlt)]
    simp
  rw [isBoundary, hget]
  simp [hmore more[k] (List.getElem_mem _)]

-- A text may be cut exactly where some of its first characters end.
theorem isBoundary_encode_iff :
    isBoundary (encode cs) place = true ↔ ∃ ds, ds <+: cs ∧ (encode ds).length = place := by
  induction cs generalizing place with
  | nil =>
    cases place with
    | zero => exact ⟨fun _ => ⟨[], List.prefix_refl [], rfl⟩, fun _ => rfl⟩
    | succ place =>
      refine ⟨nofun, ?_⟩
      rintro ⟨ds, hds, hlength⟩
      rw [List.prefix_nil.1 hds] at hlength
      cases hlength
  | cons c cs ih =>
    by_cases hzero : place = 0
    · subst hzero
      exact ⟨fun _ => ⟨[], List.nil_prefix, rfl⟩, fun _ => isBoundary_zero⟩
    by_cases hlt : place < (encodeChar c).length
    · rw [isBoundary_encode_cons_of_lt (by omega) hlt]
      refine ⟨nofun, ?_⟩
      rintro ⟨ds, hds, hlength⟩
      cases ds with
      | nil => exact absurd hlength.symm hzero
      | cons d ds =>
        obtain ⟨rfl, -⟩ := List.cons_prefix_cons.1 hds
        rw [encode_cons, List.length_append] at hlength
        omega
    · obtain ⟨rest, rfl⟩ : ∃ rest, place = (encodeChar c).length + rest :=
        ⟨place - (encodeChar c).length, by omega⟩
      rw [isBoundary_encode_cons, ih]
      constructor
      · rintro ⟨ds, hds, hlength⟩
        refine ⟨c :: ds, List.cons_prefix_cons.2 ⟨rfl, hds⟩, ?_⟩
        rw [encode_cons, List.length_append, hlength]
      · rintro ⟨ds, hds, hlength⟩
        cases ds with
        | nil => exact absurd hlength.symm hzero
        | cons d ds =>
          obtain ⟨rfl, htail⟩ := List.cons_prefix_cons.1 hds
          rw [encode_cons, List.length_append] at hlength
          exact ⟨ds, htail, by omega⟩

-- The way back ends at a boundary and passes none. It never leaves the start, which is one.
theorem exists_boundaryBefore (bytes : List UInt8) (place : Nat) :
    ∃ last ≤ place, boundaryBefore? bytes place = some last ∧ isBoundary bytes last = true ∧
      ∀ i, last < i → i ≤ place → isBoundary bytes i = false := by
  induction place with
  | zero => exact ⟨0, Nat.le_refl 0, rfl, rfl, fun i hlt hle => by omega⟩
  | succ place ih =>
    by_cases hplace : isBoundary bytes (place + 1) = true
    · exact ⟨place + 1, Nat.le_refl _, by rw [boundaryBefore?, if_pos hplace], hplace,
        fun i hlt hle => by omega⟩
    · obtain ⟨last, hle, hback, hlast, hpassed⟩ := ih
      refine ⟨last, by omega, by rw [boundaryBefore?, if_neg hplace, hback], hlast, ?_⟩
      intro i hlt hi
      by_cases htop : i = place + 1
      · rw [htop]
        exact Bool.eq_false_iff.2 hplace
      · exact hpassed i hlt (by omega)

-- The longest text that takes at most `cap` bytes and begins another one.
structure LongestWithin (cap : Nat) (cs : List Char) (s : String) : Prop where
  begins : s.toList <+: cs
  fits : s.utf8ByteSize ≤ cap
  longest : ∀ {t : String}, t.toList <+: cs → t.utf8ByteSize ≤ cap → t.toList <+: s.toList

theorem LongestWithin.unique (hs : LongestWithin cap cs s) (ht : LongestWithin cap cs t) :
    s = t := by
  have hst := ht.longest hs.begins hs.fits
  have hts := hs.longest ht.begins ht.fits
  exact String.toList_injective (hst.eq_of_length_le hts.length_le)

-- What is longest within the cap is the whole text, or the next character does not fit any more.
theorem longestWithin_iff :
    LongestWithin cap cs s ↔ s.utf8ByteSize ≤ cap ∧
      (s.toList = cs ∨ ∃ c rest, cs = s.toList ++ c :: rest ∧ cap < s.utf8ByteSize + c.utf8Size) := by
  constructor
  · intro h
    refine ⟨h.fits, ?_⟩
    obtain ⟨rest, hrest⟩ := h.begins
    cases rest with
    | nil => exact .inl (by simpa using hrest)
    | cons c rest =>
      refine .inr ⟨c, rest, hrest.symm, ?_⟩
      by_contra hle
      have hbegins : (s.push c).toList <+: cs := ⟨rest, by simp [← hrest]⟩
      have hmore := (h.longest hbegins (by rw [String.utf8ByteSize_push]; omega)).length_le
      rw [String.toList_push, List.length_append, List.length_singleton] at hmore
      omega
  · rintro ⟨hfits, rfl | ⟨c, rest, rfl, hnext⟩⟩
    · exact ⟨List.prefix_refl _, hfits, fun ht _ => ht⟩
    · refine ⟨List.prefix_append _ _, hfits, ?_⟩
      intro t ht hcap
      rcases List.prefix_or_prefix_of_prefix ht (List.prefix_append _ _) with hbegins | ⟨more, hmore⟩
      · exact hbegins
      · cases more with
        | nil => simp [← hmore]
        | cons d more =>
          rw [← hmore] at ht
          obtain ⟨rfl, -⟩ := List.cons_prefix_cons.1 ((List.prefix_append_right_inj _).1 ht)
          have hsize := utf8ByteSize_eq t
          rw [← hmore, encode_append, encode_cons, List.length_append, List.length_append,
            length_encodeChar, ← utf8ByteSize_eq] at hsize
          omega

theorem longestWithin_of_passed (hds : ds <+: cs) (hfits : (encode ds).length ≤ cap)
    (hpassed : ∀ i, (encode ds).length < i → i ≤ cap → isBoundary (encode cs) i = false) :
    LongestWithin cap cs (String.ofList ds) := by
  rw [longestWithin_iff, utf8ByteSize_ofList, String.toList_ofList]
  refine ⟨hfits, ?_⟩
  obtain ⟨rest, rfl⟩ := hds
  cases rest with
  | nil => exact .inl (List.append_nil ds).symm
  | cons c rest =>
    refine .inr ⟨c, rest, rfl, ?_⟩
    by_contra hle
    have hlength : (encode (ds ++ [c])).length = (encode ds).length + c.utf8Size := by
      rw [encode_append, encode_cons, encode_nil, List.append_nil, List.length_append,
        length_encodeChar]
    have hbegins : ds ++ [c] <+: ds ++ c :: rest := ⟨rest, by simp⟩
    have hboundary := isBoundary_encode_iff.2 ⟨ds ++ [c], hbegins, rfl⟩
    have hpos := c.utf8Size_pos
    rw [hpassed _ (by omega) (by omega)] at hboundary
    cases hboundary

-- A text can always be cut, and the cut leaves as much of it as fits.
theorem exists_truncate (cap : Nat) (cs : List Char) :
    ∃ ds, truncate? cap cs = some ds ∧ LongestWithin cap cs (String.ofList ds) := by
  by_cases hfits : (encode cs).length ≤ cap
  · refine ⟨cs, by rw [truncate?, if_pos hfits], ?_⟩
    rw [longestWithin_iff, utf8ByteSize_ofList, String.toList_ofList]
    exact ⟨hfits, .inl rfl⟩
  · obtain ⟨last, hle, hback, hlast, hpassed⟩ := exists_boundaryBefore (encode cs) cap
    obtain ⟨ds, hds, rfl⟩ := isBoundary_encode_iff.1 hlast
    refine ⟨ds, ?_, longestWithin_of_passed hds hle hpassed⟩
    obtain ⟨more, rfl⟩ := hds
    rw [truncate?, if_neg hfits, hback, Option.bind_some, encode_append, List.take_left,
      decode?_encode]

end Stepwise.Text
