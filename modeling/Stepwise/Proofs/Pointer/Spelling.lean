import Mathlib.Data.List.Forall2
import Stepwise.Pointer.FieldPath
import Stepwise.Proofs.Text.Digits

namespace Stepwise

variable {t : List Char} {c : Char} {s : Segment} {n : Nat}

-- What a text in a path stands for: digits that fit 64 bits for the place they number, any other
-- text for the name that it is.
inductive Segment.Names (t : List Char) : Segment → Prop
  | index (hdigits : ∀ c ∈ t, c.isDigit = true)
    (hfits : Nat.ofDigitChars 10 t 0 < 0x10000000000000000) :
    Names t (.index (Nat.ofDigitChars 10 t 0))
  | key (hname : ¬ ((∀ c ∈ t, c.isDigit = true) ∧
      Nat.ofDigitChars 10 t 0 < 0x10000000000000000)) :
    Names t (.key (String.ofList t))

namespace Segment

theorem digitsValue_eq (t : List Char) : Decimal.digitsValue t = Nat.ofDigitChars 10 t 0 :=
  Text.foldl_eq_ofDigitChars t

theorem names_iff : Names t s ↔ s = ofText t := by
  have hall : t.all Char.isDigit = true ↔ ∀ c ∈ t, c.isDigit = true := List.all_eq_true
  unfold ofText
  simp only [hall, digitsValue_eq]
  constructor
  · intro h
    cases h with
    | index hdigits hfits => rw [if_pos ⟨hdigits, hfits⟩]
    | key hname => rw [if_neg hname]
  · intro hs
    rw [hs]
    split
    · next h => exact .index h.1 h.2
    · next h => exact .key h

theorem ofText_toDigits (hn : n < 0x10000000000000000) : ofText (Nat.toDigits 10 n) = .index n := by
  have hall : (Nat.toDigits 10 n).all Char.isDigit = true :=
    List.all_eq_true.2 (Text.isDigit_toDigits n)
  have hvalue : Decimal.digitsValue (Nat.toDigits 10 n) = n := Text.foldl_toDigits n
  rw [ofText, hvalue, if_pos ⟨hall, hn⟩]

theorem lt_of_ofText (h : ofText t = .index n) : n < 0x10000000000000000 := by
  unfold ofText at h
  split at h
  · next hfits =>
    cases h
    exact hfits.2
  · cases h

theorem toList_of_ofText {name : String} (h : ofText t = .key name) : name.toList = t := by
  unfold ofText at h
  split at h
  · cases h
  · cases h
    exact String.toList_ofList

end Segment

namespace FieldPath

-- A text that holds no character with a meaning in paths.
def Plain (t : List Char) : Prop := t ≠ [] ∧ ∀ c ∈ t, c ≠ '.' ∧ c ≠ '[' ∧ c ≠ ']'

theorem ext_segments {p q : FieldPath} (h : p.segments = q.segments) : p = q := by
  cases p
  cases q
  cases h
  rfl

theorem pieces_ne_nil (cs : List Char) : pieces cs ≠ [] := by
  cases cs with
  | nil => simp [pieces]
  | cons c rest =>
    unfold pieces
    split
    · simp
    · split <;> simp

-- A point ends a piece whatever stands around it.
theorem pieces_append_point (a b : List Char) : pieces (a ++ '.' :: b) = pieces a ++ pieces b := by
  induction a with
  | nil => simp [pieces]
  | cons c rest ih =>
    rw [List.cons_append, pieces, pieces]
    by_cases hc : c = '.'
    · rw [if_pos hc, if_pos hc, ih, List.cons_append]
    · rw [if_neg hc, if_neg hc, ih]
      cases hrest : pieces rest with
      | nil => exact absurd hrest (pieces_ne_nil rest)
      | cons piece more => rfl

theorem pieces_of_not_mem (h : '.' ∉ t) : pieces t = [t] := by
  induction t with
  | nil => rfl
  | cons c rest ih =>
    have hc : c ≠ '.' := fun hc => h (hc ▸ List.mem_cons_self)
    rw [pieces, if_neg hc, ih fun hrest => h (List.mem_cons_of_mem _ hrest)]

theorem mem_of_mem_pieces {cs : List Char} (ht : t ∈ pieces cs) (hc : c ∈ t) : c ∈ cs ∧ c ≠ '.' := by
  induction cs generalizing t with
  | nil =>
    have hnil : t = [] := by simpa [pieces] using ht
    rw [hnil] at hc
    cases hc
  | cons d rest ih =>
    unfold pieces at ht
    split at ht
    · rcases List.mem_cons.1 ht with rfl | ht
      · cases hc
      · have hrest := ih ht hc
        exact ⟨List.mem_cons_of_mem _ hrest.1, hrest.2⟩
    · next hd =>
      split at ht
      · next hnil => exact absurd hnil (pieces_ne_nil rest)
      · next piece more hpieces =>
        rw [hpieces] at ih
        rcases List.mem_cons.1 ht with rfl | ht
        · rcases List.mem_cons.1 hc with rfl | hc
          · exact ⟨List.mem_cons_self, hd⟩
          · have hrest := ih List.mem_cons_self hc
            exact ⟨List.mem_cons_of_mem _ hrest.1, hrest.2⟩
        · have hrest := ih (List.mem_cons_of_mem _ ht) hc
          exact ⟨List.mem_cons_of_mem _ hrest.1, hrest.2⟩

theorem normalize_append (a b : List Char) : normalize (a ++ b) = normalize a ++ normalize b := by
  simp [normalize]

theorem normalize_of_plain (h : ∀ c ∈ t, c ≠ '.' ∧ c ≠ '[' ∧ c ≠ ']') : normalize t = t := by
  have hmap : t.map (fun c => if c = '[' then '.' else c) = t.map id :=
    List.map_congr_left fun c hc => if_neg (h c hc).2.1
  rw [normalize, hmap, List.map_id, List.filter_eq_self]
  intro c hc
  simpa using (h c hc).2.2

theorem mem_normalize {cs : List Char} (h : c ∈ normalize cs) : c ≠ '[' ∧ c ≠ ']' := by
  obtain ⟨hmem, hclose⟩ := List.mem_filter.1 h
  obtain ⟨d, -, rfl⟩ := List.mem_map.1 hmem
  refine ⟨?_, by simpa using hclose⟩
  by_cases hd : d = '['
  · rw [if_pos hd]
    decide
  · rwa [if_neg hd]

theorem plain_of_mem_pieces {cs : List Char} (ht : t ∈ pieces (normalize cs)) (hne : t ≠ []) :
    Plain t := by
  refine ⟨hne, fun c hc => ?_⟩
  have hmem := mem_of_mem_pieces ht hc
  exact ⟨hmem.2, mem_normalize hmem.1⟩

theorem segments_ofChars (cs : List Char) :
    (ofChars cs).segments = ((pieces (normalize cs)).filter (· ≠ [])).map Segment.ofText := rfl

-- A point and an opening bracket both separate what stands before them from what follows.
theorem segments_append_cons (hc : c = '.' ∨ c = '[') (a b : List Char) :
    (ofChars (a ++ c :: b)).segments = (ofChars a).segments ++ (ofChars b).segments := by
  have hpoint : normalize (c :: b) = '.' :: normalize b := by
    rcases hc with rfl | rfl <;> simp [normalize]
  simp only [segments_ofChars]
  rw [normalize_append, hpoint, pieces_append_point, List.filter_append, List.map_append]

theorem segments_nil : (ofChars []).segments = [] := rfl

-- A closing bracket does not count.
theorem ofChars_append_close (a b : List Char) : ofChars (a ++ ']' :: b) = ofChars (a ++ b) := by
  have hclose : normalize (']' :: b) = normalize b := by simp [normalize]
  rw [ofChars, ofChars, normalize_append, hclose, ← normalize_append]

theorem segments_of_plain (h : Plain t) : (ofChars t).segments = [Segment.ofText t] := by
  have hpoint : '.' ∉ t := fun hmem => (h.2 '.' hmem).1 rfl
  rw [segments_ofChars, normalize_of_plain h.2, pieces_of_not_mem hpoint]
  simp [h.1]

theorem exists_plain_of_mem_segments {cs : List Char} (hs : s ∈ (ofChars cs).segments) :
    ∃ t, Plain t ∧ s = Segment.ofText t := by
  rw [segments_ofChars] at hs
  obtain ⟨t, ht, rfl⟩ := List.mem_map.1 hs
  obtain ⟨hpiece, hne⟩ := List.mem_filter.1 ht
  exact ⟨t, plain_of_mem_pieces hpiece (by simpa using hne), rfl⟩

theorem plain_toDigits (n : Nat) : Plain (Nat.toDigits 10 n) := by
  refine ⟨Nat.toDigits_ne_nil, fun c hc => ?_⟩
  have hdigit : c.isDigit = true := Text.isDigit_toDigits n c hc
  exact ⟨Text.ne_of_isDigit hdigit rfl, Text.ne_of_isDigit hdigit rfl, Text.ne_of_isDigit hdigit rfl⟩

-- The marks that set a text apart from what stands before it.
inductive Mark
  | point
  | brackets

def Mark.set : Mark → List Char → List Char
  | point, t => '.' :: t
  | brackets, t => '[' :: t ++ [']']

-- Texts, each behind its mark.
def marked (parts : List (Mark × List Char)) : List Char := parts.flatMap fun p => p.1.set p.2

-- The first text may go without a mark.
def unmarked : List (Mark × List Char) → List Char
  | [] => []
  | p :: rest => p.2 ++ marked rest

theorem segments_append_set (m : Mark) (a t b : List Char) :
    (ofChars (a ++ m.set t ++ b)).segments = (ofChars a).segments ++ (ofChars (t ++ b)).segments := by
  cases m with
  | point =>
    have hset : a ++ Mark.point.set t ++ b = a ++ '.' :: (t ++ b) := by simp [Mark.set]
    rw [hset, segments_append_cons (.inl rfl)]
  | brackets =>
    have hset : a ++ Mark.brackets.set t ++ b = a ++ '[' :: (t ++ ']' :: b) := by simp [Mark.set]
    rw [hset, segments_append_cons (.inr rfl), ofChars_append_close]

-- Induction on the parts, with what stands before them; a part is read once the next mark ends it.
theorem segments_append_marked {parts : List (Mark × List Char)} (h : ∀ p ∈ parts, Plain p.2)
    (a : List Char) :
    (ofChars (a ++ marked parts)).segments =
      (ofChars a).segments ++ parts.map fun p => Segment.ofText p.2 := by
  induction parts generalizing a with
  | nil => simp [marked]
  | cons p rest ih =>
    rw [List.forall_mem_cons] at h
    have hmarked : a ++ marked (p :: rest) = a ++ p.1.set p.2 ++ marked rest := by simp [marked]
    rw [hmarked, segments_append_set, ih h.2, segments_of_plain h.1]
    simp

theorem segments_marked {parts : List (Mark × List Char)} (h : ∀ p ∈ parts, Plain p.2) :
    (ofChars (marked parts)).segments = parts.map fun p => Segment.ofText p.2 := by
  have hall := segments_append_marked h []
  rwa [List.nil_append, segments_nil, List.nil_append] at hall

theorem segments_unmarked {parts : List (Mark × List Char)} (h : ∀ p ∈ parts, Plain p.2) :
    (ofChars (unmarked parts)).segments = parts.map fun p => Segment.ofText p.2 := by
  cases parts with
  | nil => rfl
  | cons p rest =>
    rw [List.forall_mem_cons] at h
    rw [unmarked, segments_append_marked h.2, segments_of_plain h.1]
    simp

-- Each text names one segment.
theorem forall₂_names_iff {texts : List (List Char)} {segments : List Segment} :
    List.Forall₂ Segment.Names texts segments ↔ segments = texts.map Segment.ofText := by
  constructor
  · intro h
    induction h with
    | nil => rfl
    | cons hname _ ih => rw [List.map_cons, Segment.names_iff.1 hname, ih]
  · rintro rfl
    exact List.forall₂_map_right_iff.2 (List.forall₂_same.2 fun _ _ => Segment.names_iff.2 rfl)

-- A segment that was read from a text is read back from its own.
theorem segments_text {cs : List Char} (hs : s ∈ (ofChars cs).segments) :
    (ofChars s.text.toList).segments = [s] := by
  obtain ⟨t, hplain, rfl⟩ := exists_plain_of_mem_segments hs
  cases ht : Segment.ofText t with
  | index n =>
    have htext : (Segment.index n).text.toList = [] ++ Mark.brackets.set (Nat.toDigits 10 n) ++ [] := by
      simp [Segment.text, Mark.set]
    have hdigits : Plain (Nat.toDigits 10 n) := plain_toDigits n
    rw [htext, segments_append_set, List.append_nil, segments_nil, List.nil_append,
      segments_of_plain hdigits, Segment.ofText_toDigits (Segment.lt_of_ofText ht)]
  | key name =>
    have hname : (Segment.key name).text.toList = t := Segment.toList_of_ofText ht
    rw [hname, segments_of_plain hplain, ht]

theorem segments_intercalate (texts : List (List Char)) :
    (ofChars (['.'].intercalate texts)).segments = texts.flatMap fun t => (ofChars t).segments := by
  induction texts with
  | nil => rfl
  | cons t rest ih =>
    cases rest with
    | nil => simp
    | cons u more =>
      have hpoint : ['.'].intercalate (t :: u :: more) =
          t ++ '.' :: ['.'].intercalate (u :: more) := by
        simp [List.intercalate_cons_cons]
      rw [hpoint, segments_append_cons (.inl rfl), ih]
      rfl

-- The own texts of the segments, with points between them, are another way to write a path.
theorem ofString_intercalate_text (text : String) :
    ofString (".".intercalate ((ofString text).segments.map Segment.text)) = ofString text := by
  have hown : ∀ seg ∈ (ofString text).segments, (ofChars seg.text.toList).segments = [seg] := by
    intro seg hseg
    rw [ofString] at hseg
    exact segments_text hseg
  have htexts : (".".intercalate ((ofString text).segments.map Segment.text)).toList =
      ['.'].intercalate ((ofString text).segments.map fun seg => seg.text.toList) := by
    simp [String.toList_intercalate, Function.comp_def]
  have hsegments : (ofString (".".intercalate ((ofString text).segments.map Segment.text))).segments =
      (ofString text).segments := by
    rw [ofString, htexts, segments_intercalate, List.flatMap_map, List.flatMap_congr hown,
      List.flatMap_singleton']
  exact ext_segments hsegments

-- However a list of texts is written as a path, it is read as the same segments, one for each text.
-- And the segments of any text at all are read back from their own texts with points between them.
theorem ofString_canonical {texts : List (List Char)} (h : ∀ t ∈ texts, Plain t) (s : String) :
    (∃ segments, List.Forall₂ Segment.Names texts segments ∧
      ∀ parts : List (Mark × List Char), parts.map Prod.snd = texts →
        (ofString (String.ofList (marked parts))).segments = segments ∧
          (ofString (String.ofList (unmarked parts))).segments = segments) ∧
      ofString (".".intercalate ((ofString s).segments.map Segment.text)) = ofString s := by
  refine ⟨⟨texts.map Segment.ofText, forall₂_names_iff.2 rfl, ?_⟩, ofString_intercalate_text s⟩
  rintro parts rfl
  have hparts : ∀ p ∈ parts, Plain p.2 := fun p hp => h p.2 (List.mem_map_of_mem hp)
  have hmarked := segments_marked hparts
  have hunmarked := segments_unmarked hparts
  simp only [ofString, String.toList_ofList, List.map_map]
  exact ⟨hmarked, hunmarked⟩

-- A text with leading zeros and one that is longer than any place.
def stockTexts : List (List Char) :=
  ["stock".toList, "007".toList, "18446744073709551616".toList]

theorem ofString_canonical_stockTexts :
    (∀ t ∈ stockTexts, Plain t) ∧
      (ofString ".stock[007].18446744073709551616").segments =
        [.key "stock", .index 7, .key "18446744073709551616"] ∧
      (ofString "stock.007[18446744073709551616]").segments =
        [.key "stock", .index 7, .key "18446744073709551616"] ∧
      ofString (".".intercalate ((ofString "[[a]b].07]..").segments.map Segment.text)) =
        ofString "[[a]b].07].." := by
  have hplain : ∀ t ∈ stockTexts, Plain t := by
    simp [stockTexts, Plain]
  obtain ⟨⟨segments, hnames, hspelled⟩, hback⟩ := ofString_canonical hplain "[[a]b].07].."
  have hsegments : segments = [.key "stock", .index 7, .key "18446744073709551616"] :=
    (forall₂_names_iff.1 hnames).trans (by decide)
  subst hsegments
  have hfirst := (hspelled [(.point, "stock".toList), (.brackets, "007".toList),
    (.point, "18446744073709551616".toList)] rfl).1
  have hsecond := (hspelled [(.point, "stock".toList), (.point, "007".toList),
    (.brackets, "18446744073709551616".toList)] rfl).2
  exact ⟨hplain, hfirst, hsecond, hback⟩

end FieldPath

end Stepwise
