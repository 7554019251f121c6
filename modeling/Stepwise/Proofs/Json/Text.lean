import Stepwise.Proofs.Dict
import Stepwise.Proofs.Json.Number

namespace Stepwise.Json

open Stepwise.Text

variable {c : Char} {cs s rest follow : List Char} {fuel depth i j : Nat} {v : Json}

section Quoted

theorem hexValue?_hexDigit : ∀ i < 16, hexValue? (hexDigit i) = some i := by decide

theorem utf8Size_hexDigit : ∀ i < 16, (hexDigit i).utf8Size = 1 := by decide

theorem readUnit_hexDigit (hi : i < 16) (hj : j < 16) (rest : List Char) :
    readUnit ('0' :: '0' :: hexDigit i :: hexDigit j :: rest) = .ok (i * 16 + j, rest) := by
  have hzero : hexValue? '0' = some 0 := by decide
  have hsize : byteCount ['0', '0', hexDigit i, hexDigit j] = 4 := by
    have hdigit : Char.utf8Size '0' = 1 := by decide
    simp [byteCount, utf8Size_hexDigit, hi, hj, hdigit]
  simp [readUnit, hsize, hzero, hexValue?_hexDigit, hi, hj]

theorem readUnicode_hexDigit (h : c.toNat < 0x20) (rest : List Char) :
    readUnicode ('0' :: '0' :: hexDigit (c.toNat / 16) :: hexDigit (c.toNat % 16) :: rest) =
      .ok (c, rest) := by
  have hvalue : c.toNat / 16 * 16 + c.toNat % 16 = c.toNat := Nat.div_add_mod' ..
  have hlow : ¬(0xDC00 ≤ c.toNat ∧ c.toNat ≤ 0xDFFF) := by omega
  have hhigh : ¬(0xD800 ≤ c.toNat ∧ c.toNat ≤ 0xDBFF) := by omega
  rw [readUnicode, readUnit_hexDigit (by omega) (by omega), hvalue]
  simp [bind, Except.bind, hlow, hhigh]

-- A character comes back from the way it stands between quotes.
theorem readString_escapeChar (fuel : Nat) (sofar : List Char) (c : Char) (rest : List Char) :
    readString (fuel + 1) sofar (escapeChar c ++ rest) = readString fuel (c :: sofar) rest := by
  unfold escapeChar
  split
  · next h => subst h; rfl
  split
  · next h => subst h; rfl
  split
  · next h => subst h; rfl
  split
  · next h => subst h; rfl
  split
  · next h => subst h; rfl
  split
  · next h => subst h; rfl
  split
  · next h => subst h; rfl
  split
  · next h =>
    simp [readString, readUnicode_hexDigit h, bind, Except.bind]
  · next hquote hslash _ _ _ _ _ h =>
    simp [readString, hquote, hslash, h]

theorem length_escapeChar (c : Char) : 1 ≤ (escapeChar c).length := by
  unfold escapeChar
  split_ifs <;> simp

theorem readString_flatMap (sofar rest : List Char) (hfuel : (s.flatMap escapeChar).length < fuel) :
    readString fuel sofar (s.flatMap escapeChar ++ '"' :: rest) =
      .ok (String.ofList (sofar.reverse ++ s), rest) := by
  induction s generalizing fuel sofar with
  | nil =>
    cases fuel with
    | zero => simp at hfuel
    | succ fuel => simp [readString]
  | cons c s ih =>
    have hlength := length_escapeChar c
    rw [List.flatMap_cons, List.length_append] at hfuel
    obtain ⟨fuel, rfl⟩ : ∃ m, fuel = m + 1 := ⟨fuel - 1, by omega⟩
    rw [List.flatMap_cons, List.append_assoc, readString_escapeChar, ih _ (by omega)]
    simp

theorem toList_quote (s : String) :
    (quote s).toList = '"' :: (s.toList.flatMap escapeChar ++ ['"']) := String.toList_ofList

theorem readString_quote (s : String) (rest : List Char) :
    readString ((s.toList.flatMap escapeChar ++ '"' :: rest).length + 1) []
        (s.toList.flatMap escapeChar ++ '"' :: rest) = .ok (s, rest) := by
  rw [readString_flatMap [] rest (by rw [List.length_append]; omega)]
  simp

end Quoted

section Value

-- What the reader makes of the text of a value, whatever it is followed by. `depth` counts the
-- brackets that may be opened. The first character tells a value from the end of a list.
structure Returns (depth : Nat) (v : Json) : Prop where
  opens : ∃ c cs, v.compact.toList = c :: cs ∧ isBlank c = false ∧ c ≠ ']'
  reads : ∀ fuel follow, v.compact.toList.length ≤ fuel + 1 → Stops follow →
    readValue (fuel + 1) (depth + 1) (v.compact.toList ++ follow) = .ok (v, follow)

theorem skipBlanks_cons (hc : isBlank c = false) (cs : List Char) :
    skipBlanks (c :: cs) = c :: cs := by
  simp [skipBlanks, hc]

theorem isBlank_of_isDigit (hc : c.isDigit = true) : isBlank c = false := by
  have hne {d : Char} (hd : d.isDigit = false) : c ≠ d := ne_of_isDigit hc hd
  have hspace : c ≠ ' ' := hne (by decide)
  have hline : c ≠ '\n' := hne (by decide)
  have htab : c ≠ '\t' := hne (by decide)
  have hreturn : c ≠ '\r' := hne (by decide)
  simp [isBlank, hspace, hline, htab, hreturn]

theorem returns_null (depth : Nat) : Returns depth .null where
  opens := ⟨'n', ['u', 'l', 'l'], by rw [compact]; rfl, by decide, by decide⟩
  reads fuel follow _ _ := by
    simp [compact, readValue, readWord, skipBlanks, isBlank, Except.map]

theorem returns_bool (depth : Nat) (value : Bool) : Returns depth (.bool value) := by
  cases value with
  | false =>
    refine ⟨⟨'f', ['a', 'l', 's', 'e'], by rw [compact]; rfl, by decide, by decide⟩, ?_⟩
    intro fuel follow _ _
    simp [compact, readValue, readWord, skipBlanks, isBlank, Except.map]
  | true =>
    refine ⟨⟨'t', ['r', 'u', 'e'], by rw [compact]; rfl, by decide, by decide⟩, ?_⟩
    intro fuel follow _ _
    simp [compact, readValue, readWord, skipBlanks, isBlank, Except.map]

theorem returns_num {n : Number} (h : n.Legible) (depth : Nat) : Returns depth (.num n) := by
  obtain ⟨negative, body, htext, hread⟩ := readNumber_of_legible h
  have hbody : readNumber negative body = .ok (n, []) := by
    simpa using hread [] (by simp [Stops])
  obtain ⟨c, more, rfl, hc⟩ := head_of_readNumber hbody
  have hne {d : Char} (hd : d.isDigit = false) : c ≠ d := ne_of_isDigit hc hd
  cases negative with
  | true =>
    refine ⟨⟨'-', c :: more, htext, by decide, by decide⟩, fun fuel follow _ hfollow => ?_⟩
    have hnumber := hread follow hfollow
    rw [List.cons_append] at hnumber
    rw [compact, htext]
    simp [Decimal.signed, readValue, skipBlanks, isBlank, hnumber, Except.map]
  | false =>
    refine ⟨⟨c, more, htext, isBlank_of_isDigit hc, hne (by decide)⟩,
      fun fuel follow _ hfollow => ?_⟩
    have hnumber := hread follow hfollow
    rw [List.cons_append] at hnumber
    have hn : c ≠ 'n' := hne (by decide)
    have ht : c ≠ 't' := hne (by decide)
    have hf : c ≠ 'f' := hne (by decide)
    have hminus : c ≠ '-' := hne (by decide)
    rw [compact, htext]
    simp [Decimal.signed, readValue, skipBlanks_cons (isBlank_of_isDigit hc), hn, ht, hf, hminus,
      hc, hnumber, Except.map]

theorem readValue_quote (fuel depth : Nat) (cs : List Char) :
    readValue (fuel + 1) depth ('"' :: cs) =
      (readString (cs.length + 1) [] cs).map fun (s, r) => (.str s, r) := by
  simp [readValue, skipBlanks, isBlank]

theorem readValue_bracket (fuel depth : Nat) (cs : List Char) :
    readValue (fuel + 1) (depth + 2) ('[' :: cs) = readItems fuel (depth + 1) [] cs := by
  simp [readValue, skipBlanks, isBlank]

theorem readValue_brace (fuel depth : Nat) (cs : List Char) :
    readValue (fuel + 1) (depth + 2) ('\x7b' :: cs) =
      readMembers fuel (depth + 1) true .empty cs := by
  simp [readValue, skipBlanks, isBlank]

theorem returns_str (depth : Nat) (value : String) : Returns depth (.str value) := by
  have htext := toList_quote value
  refine ⟨⟨'"', value.toList.flatMap escapeChar ++ ['"'], htext, by decide, by decide⟩, ?_⟩
  intro fuel follow _ _
  rw [compact, htext, List.cons_append, List.append_assoc, readValue_quote]
  exact congrArg _ (readString_quote value follow)

end Value

section Group

variable {items : List Json} {members : List (String × Json)}

-- Parts behind the first one, each after a comma.
def behind (parts : List (List Char)) : List Char := parts.flatMap fun part => ',' :: part

theorem behind_cons (part : List Char) (parts : List (List Char)) :
    behind (part :: parts) = ',' :: (part ++ behind parts) := List.flatMap_cons ..

theorem stops_behind (parts : List (List Char)) (hc : c = ']' ∨ c = '\x7d') (rest : List Char) :
    Stops (behind parts ++ c :: rest) := by
  intro d hd
  cases parts with
  | nil =>
    obtain rfl : c = d := by simpa [behind] using hd
    obtain rfl | rfl := hc <;> decide
  | cons part parts =>
    obtain rfl : ',' = d := by simpa [behind] using hd
    decide

theorem intercalate_cons (part : List Char) (parts : List (List Char)) :
    [','].intercalate (part :: parts) = part ++ behind parts := by
  induction parts generalizing part with
  | nil => simp [behind]
  | cons next parts ih =>
    rw [List.intercalate_cons_cons, ih]
    simp [behind]

theorem compactItems_eq_map (items : List Json) : compactItems items = items.map compact := by
  induction items with
  | nil => rfl
  | cons v items ih => rw [compactItems, ih, List.map_cons]

theorem compactMembers_eq_map (members : List (String × Json)) :
    compactMembers members = members.map fun m => quote m.1 ++ ":" ++ m.2.compact := by
  induction members with
  | nil => rfl
  | cons m members ih => rw [compactMembers, ih, List.map_cons]

theorem Returns.readValue_eq (h : Returns depth v) (hfuel : v.compact.toList.length ≤ fuel)
    (hfollow : Stops follow) :
    readValue fuel (depth + 1) (v.compact.toList ++ follow) = .ok (v, follow) := by
  obtain ⟨c, cs, htext, -⟩ := h.opens
  cases fuel with
  | zero => simp [htext] at hfuel
  | succ fuel => exact h.reads fuel follow hfuel hfollow

theorem Returns.readItems_first (h : Returns depth v) (hfuel : v.compact.toList.length ≤ fuel)
    (hrest : Stops rest) :
    readItems (fuel + 1) (depth + 1) [] (v.compact.toList ++ rest) =
      readItems fuel (depth + 1) [v] rest := by
  have hread := h.readValue_eq hfuel hrest
  obtain ⟨c, cs, htext, hblank, hend⟩ := h.opens
  rw [htext, List.cons_append] at hread ⊢
  simp [readItems, skipBlanks_cons hblank, hend, hread, bind, Except.bind]

theorem Returns.readItems_comma (h : Returns depth v) (hfuel : v.compact.toList.length ≤ fuel)
    (hrest : Stops rest) {sofar : List Json} (hsofar : sofar ≠ []) :
    readItems (fuel + 1) (depth + 1) sofar (',' :: (v.compact.toList ++ rest)) =
      readItems fuel (depth + 1) (v :: sofar) rest := by
  have hread := h.readValue_eq hfuel hrest
  have hcomma : isBlank ',' = false := by decide
  obtain ⟨c, cs, htext, hblank, hend⟩ := h.opens
  rw [htext, List.cons_append] at hread ⊢
  simp [readItems, skipBlanks_cons hblank, skipBlanks_cons hcomma, hend, hsofar, hread, bind,
    Except.bind]

-- Each turn takes a comma and an item away, so the length of what is left bounds the turns.
theorem readItems_behind (h : ∀ v ∈ items, Returns depth v) {sofar : List Json}
    (hsofar : sofar ≠ [])
    (hfuel : (behind (items.map fun v => v.compact.toList)).length < fuel) (follow : List Char) :
    readItems fuel (depth + 1) sofar
        (behind (items.map fun v => v.compact.toList) ++ ']' :: follow) =
      .ok (.arr (sofar.reverse ++ items), follow) := by
  induction items generalizing fuel sofar with
  | nil =>
    obtain ⟨fuel, rfl⟩ : ∃ m, fuel = m + 1 := ⟨fuel - 1, by omega⟩
    simp [behind, readItems, skipBlanks, isBlank]
  | cons v items ih =>
    obtain ⟨hv, hitems⟩ := List.forall_mem_cons.1 h
    rw [List.map_cons, behind_cons, List.length_cons, List.length_append] at hfuel
    obtain ⟨fuel, rfl⟩ : ∃ m, fuel = m + 1 := ⟨fuel - 1, by omega⟩
    rw [List.map_cons, behind_cons, List.cons_append, List.append_assoc,
      hv.readItems_comma (by omega) (stops_behind _ (.inl rfl) follow) hsofar,
      ih hitems (List.cons_ne_nil v sofar) (by omega), List.reverse_cons, List.append_assoc]
    rfl

theorem toList_arr (items : List Json) :
    (arr items).compact.toList =
      '[' :: ([','].intercalate (items.map fun v => v.compact.toList) ++ [']']) := by
  rw [compact, compactItems_eq_map, String.toList_append, String.toList_append,
    String.toList_intercalate, List.map_map]
  rfl

theorem returns_arr (h : ∀ v ∈ items, Returns depth v) : Returns (depth + 1) (.arr items) := by
  have htext := toList_arr items
  refine ⟨⟨'[', _, htext, by decide, by decide⟩, fun fuel follow hfuel hfollow => ?_⟩
  rw [htext, List.length_cons, List.length_append] at hfuel
  obtain ⟨fuel, rfl⟩ : ∃ m, fuel = m + 1 := ⟨fuel - 1, by simp at hfuel; omega⟩
  rw [htext, List.cons_append, List.append_assoc, readValue_bracket]
  cases items with
  | nil => simp [readItems, skipBlanks, isBlank]
  | cons v items =>
    obtain ⟨hv, hitems⟩ := List.forall_mem_cons.1 h
    rw [List.map_cons, intercalate_cons, List.length_append, List.length_singleton] at hfuel
    rw [List.map_cons, intercalate_cons, List.append_assoc, List.singleton_append,
      hv.readItems_first (by omega) (stops_behind _ (.inl rfl) follow)]
    obtain ⟨c, cs, hhead, -⟩ := hv.opens
    rw [hhead, List.length_cons] at hfuel
    exact readItems_behind hitems (List.cons_ne_nil v []) (by omega) follow

-- The text of a member of an object.
def memberText (m : String × Json) : List Char := (quote m.1).toList ++ ':' :: m.2.compact.toList

theorem memberText_append (m : String × Json) (rest : List Char) :
    memberText m ++ rest =
      '"' :: (m.1.toList.flatMap escapeChar ++ '"' :: ':' :: (m.2.compact.toList ++ rest)) := by
  simp [memberText, toList_quote]

theorem length_memberText (m : String × Json) :
    m.2.compact.toList.length + 3 ≤ (memberText m).length := by
  simp [memberText, toList_quote]

theorem Returns.readMember_eq {m : String × Json} (h : Returns depth m.2)
    (hfuel : m.2.compact.toList.length ≤ fuel) (hrest : Stops rest) (sofar : Dict Json) :
    readMember (fuel + 1) (depth + 1) sofar (memberText m ++ rest) =
      readMembers fuel (depth + 1) false (sofar.insert m.1 m.2) rest := by
  have hread := h.readValue_eq hfuel hrest
  have hkey := readString_quote m.1 (':' :: (m.2.compact.toList ++ rest))
  rw [memberText_append, readMember]
  simp only [hkey, bind, Except.bind, skipBlanks_cons (show isBlank ':' = false by decide), hread]

theorem Returns.readMembers_first {m : String × Json} (h : Returns depth m.2)
    (hfuel : m.2.compact.toList.length ≤ fuel) (hrest : Stops rest) (sofar : Dict Json) :
    readMembers (fuel + 2) (depth + 1) true sofar (memberText m ++ rest) =
      readMembers fuel (depth + 1) false (sofar.insert m.1 m.2) rest := by
  rw [← h.readMember_eq hfuel hrest, memberText_append]
  simp [readMembers, skipBlanks_cons (show isBlank '"' = false by decide)]

theorem Returns.readMembers_comma {m : String × Json} (h : Returns depth m.2)
    (hfuel : m.2.compact.toList.length ≤ fuel) (hrest : Stops rest) (sofar : Dict Json) :
    readMembers (fuel + 2) (depth + 1) false sofar (',' :: (memberText m ++ rest)) =
      readMembers fuel (depth + 1) false (sofar.insert m.1 m.2) rest := by
  rw [← h.readMember_eq hfuel hrest, memberText_append]
  simp [readMembers, skipBlanks_cons (show isBlank '"' = false by decide),
    skipBlanks_cons (show isBlank ',' = false by decide)]

theorem readMembers_behind (h : ∀ m ∈ members, Returns depth m.2) (sofar : Dict Json)
    (hfuel : (behind (members.map memberText)).length < fuel) (follow : List Char) :
    readMembers fuel (depth + 1) false sofar (behind (members.map memberText) ++ '\x7d' :: follow) =
      .ok (.ofDict (sofar.insertAll members), follow) := by
  induction members generalizing fuel sofar with
  | nil =>
    obtain ⟨fuel, rfl⟩ : ∃ m, fuel = m + 1 := ⟨fuel - 1, by omega⟩
    simp [behind, readMembers, skipBlanks, isBlank, Dict.insertAll]
  | cons m members ih =>
    obtain ⟨hm, hmembers⟩ := List.forall_mem_cons.1 h
    have hlength := length_memberText m
    rw [List.map_cons, behind_cons, List.length_cons, List.length_append] at hfuel
    obtain ⟨fuel, rfl⟩ : ∃ m, fuel = m + 2 := ⟨fuel - 2, by omega⟩
    rw [List.map_cons, behind_cons, List.cons_append, List.append_assoc,
      hm.readMembers_comma (by omega) (stops_behind _ (.inr rfl) follow),
      ih hmembers _ (by omega)]
    rfl

theorem toList_obj (members : List (String × Json)) :
    (obj members).compact.toList =
      '\x7b' :: ([','].intercalate (members.map memberText) ++ ['\x7d']) := by
  have hparts : (members.map fun m => quote m.1 ++ ":" ++ m.2.compact).map String.toList =
      members.map memberText := by
    simp [memberText, Function.comp_def]
  rw [compact, compactMembers_eq_map, String.toList_append, String.toList_append,
    String.toList_intercalate, hparts]
  rfl

theorem returns_obj (hasc : members.Pairwise fun a b => a.1 < b.1)
    (h : ∀ m ∈ members, Returns depth m.2) : Returns (depth + 1) (.obj members) := by
  have hdict : ofDict (Dict.ofList members) = .obj members := by
    rw [ofDict, Dict.entries_ofList hasc]
  have htext := toList_obj members
  refine ⟨⟨'\x7b', _, htext, by decide, by decide⟩, fun fuel follow hfuel hfollow => ?_⟩
  rw [htext, List.length_cons, List.length_append] at hfuel
  rw [htext, List.cons_append, List.append_assoc, readValue_brace, ← hdict]
  cases members with
  | nil =>
    obtain ⟨fuel, rfl⟩ : ∃ m, fuel = m + 1 := ⟨fuel - 1, by simp at hfuel; omega⟩
    simp [readMembers, skipBlanks, isBlank, Dict.ofList, Dict.insertAll]
  | cons m members =>
    obtain ⟨hm, hmembers⟩ := List.forall_mem_cons.1 h
    have hlength := length_memberText m
    rw [List.map_cons, intercalate_cons, List.length_append, List.length_singleton] at hfuel
    obtain ⟨fuel, rfl⟩ : ∃ m, fuel = m + 2 := ⟨fuel - 2, by omega⟩
    rw [List.map_cons, intercalate_cons, List.append_assoc, List.singleton_append,
      hm.readMembers_first (by omega) (stops_behind _ (.inr rfl) follow)]
    exact readMembers_behind hmembers _ (by omega) follow

end Group

section Text

-- Values that come back from their text when `depth` brackets may be opened: their numbers do, and
-- the members of their objects stand in order.
inductive Legible : (depth : Nat) → Json → Prop
  | null {depth : Nat} : Legible depth .null
  | bool {depth : Nat} (value : Bool) : Legible depth (.bool value)
  | num {depth : Nat} {n : Number} (h : n.Legible) : Legible depth (.num n)
  | str {depth : Nat} (value : String) : Legible depth (.str value)
  | arr {depth : Nat} {items : List Json} (h : ∀ v ∈ items, Legible depth v) :
    Legible (depth + 1) (.arr items)
  | obj {depth : Nat} {members : List (String × Json)} (hasc : members.Pairwise fun a b => a.1 < b.1)
    (h : ∀ m ∈ members, Legible depth m.2) : Legible (depth + 1) (.obj members)

theorem Legible.returns (h : Legible depth v) : Returns depth v := by
  induction h with
  | null => exact returns_null _
  | bool value => exact returns_bool _ value
  | num h => exact returns_num h _
  | str value => exact returns_str _ value
  | arr _ ih => exact returns_arr ih
  | obj hasc _ ih => exact returns_obj hasc ih

-- The text of a value is read as the value, as deep as a text may be nested.
theorem read_compact (h : Legible 127 v) : read v.compact = .ok v := by
  have hfuel : v.compact.toList.length ≤ 3 * v.compact.toList.length + 3 := by omega
  have hread := h.returns.readValue_eq hfuel (show Stops [] by simp [Stops])
  rw [List.append_nil] at hread
  simp only [read, hread, skipBlanks, List.dropWhile_nil]

end Text

end Stepwise.Json
