import Stepwise.Proofs.Pointer.Walk

namespace Stepwise.FieldPath

variable {path : FieldPath} {segment : Segment} {before after : List Segment} {u v w : Json}
  {t : List Char} {members : List (String × Json)} {start k : Nat}

-- The texts of a path, one for each of its segments; none of them is empty.
def texts (s : String) : List (List Char) := (pieces (normalize s.toList)).filter (· ≠ [])

theorem segments_ofString (s : String) : (ofString s).segments = (texts s).map Segment.ofText := rfl

-- A walk that comes to the end of the first segments goes on with the others, and counts on.
theorem walkFrom_append_of_ok (h : walkFrom start before v = .ok u) :
    walkFrom start (before ++ after) v = walkFrom (start + before.length) after u := by
  induction before generalizing start v with
  | nil =>
    cases h
    rfl
  | cons first rest ih =>
    rw [walkFrom] at h
    rw [List.cons_append, walkFrom]
    cases hfirst : enter start first v with
    | error fault =>
      rw [hfirst] at h
      cases h
    | ok x =>
      rw [hfirst] at h
      have hrest : walkFrom (start + 1) rest x = .ok u := h
      have hcount : start + 1 + rest.length = start + (first :: rest).length := by
        rw [List.length_cons]
        omega
      have hon := ih hrest
      rw [hcount] at hon
      exact hon

-- Where the first segments lead somewhere, the next one is entered there, under its own number.
section Next

variable (hnext : path.segments[k]? = some segment) (hat : (path.take k).walk v = .ok u)

include hnext hat

theorem walk_eq_walkFrom :
    path.walk v = walkFrom k (segment :: path.segments.drop (k + 1)) u := by
  obtain ⟨hk, hget⟩ := List.getElem?_eq_some_iff.mp hnext
  have hlength : (path.segments.take k).length = k := List.length_take_of_le (by omega)
  have hsplit : path.segments.take k ++ segment :: path.segments.drop (k + 1) = path.segments := by
    rw [← hget, ← List.drop_eq_getElem_cons hk, List.take_append_drop]
  have hbefore : walkFrom 0 (path.segments.take k) v = .ok u := hat
  calc
    path.walk v
      = walkFrom 0 (path.segments.take k ++ segment :: path.segments.drop (k + 1)) v := by
        rw [hsplit, walk]
    _ = walkFrom k (segment :: path.segments.drop (k + 1)) u := by
        rw [walkFrom_append_of_ok hbefore, hlength, Nat.zero_add]

theorem walk_take_succ : (path.take (k + 1)).walk v = enter k segment u := by
  obtain ⟨hk, -⟩ := List.getElem?_eq_some_iff.mp hnext
  have hnext' : (path.take (k + 1)).segments[k]? = some segment := by
    rw [take, List.getElem?_take_of_lt (Nat.lt_succ_self k), hnext]
  have hat' : ((path.take (k + 1)).take k).walk v = .ok u := by
    simp only [take, List.take_take, Nat.min_eq_left (Nat.le_succ k)]
    exact hat
  have hlast : (path.take (k + 1)).segments.drop (k + 1) = [] := by
    apply List.drop_eq_nil_of_le
    rw [take, List.length_take]
    exact Nat.min_le_left _ _
  rw [walk_eq_walkFrom hnext' hat', hlast, walkFrom]
  cases enter k segment u with
  | error fault => rfl
  | ok x => rfl

theorem walk_eq_error_of_enter {fault : Fault} (h : enter k segment u = .error fault) :
    path.walk v = .error fault := by
  rw [walk_eq_walkFrom hnext hat, walkFrom, h]

-- A later segment may stop the walk as well, but its fault has a higher number.
theorem exists_fault_at_iff :
    (∃ fault, path.walk v = .error fault ∧ fault.depth = k) ↔
      ∃ fault, enter k segment u = .error fault := by
  constructor
  · rintro ⟨fault, hwalk, hdepth⟩
    obtain ⟨-, hstop⟩ := (depth_eq_iff hwalk).mp hdepth
    rwa [walk_take_succ hnext hat] at hstop
  · rintro ⟨fault, hstop⟩
    exact ⟨fault, walk_eq_error_of_enter hnext hat hstop, depth_of_enter hstop⟩

end Next

-- Digits that fit 64 bits number a place, and an object has no places.
theorem enter_digits_of_lt (hdigits : ∀ c ∈ t, c.isDigit = true)
    (hfits : Nat.ofDigitChars 10 t 0 < 0x10000000000000000) :
    enter k (Segment.ofText t) (.obj members) =
      .error (.notIndexable (.index (Nat.ofDigitChars 10 t 0)) "object" k) := by
  have hplace := Segment.names_iff.mp (.index hdigits hfits)
  rw [← hplace]
  rfl

-- Digits that do not fit are a name like any other.
theorem enter_digits_of_le (hlong : 0x10000000000000000 ≤ Nat.ofDigitChars 10 t 0) :
    enter k (Segment.ofText t) (.obj members) = .ok w ↔
      Json.field? members (String.ofList t) = some w := by
  have hname : Segment.key (String.ofList t) = Segment.ofText t := by
    apply Segment.names_iff.mp
    apply Segment.Names.key
    rintro ⟨-, hfits⟩
    omega
  rw [← hname, enter_eq_ok_iff]
  constructor
  · intro h
    cases h with
    | member h => exact h
  · intro h
    exact .member h

theorem enter_digits_eq_ok_iff (hdigits : ∀ c ∈ t, c.isDigit = true) :
    enter k (Segment.ofText t) (.obj members) = .ok w ↔
      0x10000000000000000 ≤ Nat.ofDigitChars 10 t 0 ∧
        Json.field? members (String.ofList t) = some w := by
  by_cases hfits : Nat.ofDigitChars 10 t 0 < 0x10000000000000000
  · rw [enter_digits_of_lt hdigits hfits]
    constructor
    · intro h
      cases h
    · rintro ⟨hlong, -⟩
      omega
  · have hlong : 0x10000000000000000 ≤ Nat.ofDigitChars 10 t 0 := by omega
    rw [enter_digits_of_le hlong]
    exact ⟨fun h => ⟨hlong, h⟩, fun h => h.2⟩

theorem enter_digits_eq_error_iff (hdigits : ∀ c ∈ t, c.isDigit = true) :
    (∃ fault, enter k (Segment.ofText t) (.obj members) = .error fault) ↔
      Nat.ofDigitChars 10 t 0 < 0x10000000000000000 ∨
        Json.field? members (String.ofList t) = none := by
  cases henter : enter k (Segment.ofText t) (.obj members) with
  | ok w =>
    obtain ⟨hlong, hmember⟩ := (enter_digits_eq_ok_iff hdigits).mp henter
    constructor
    · rintro ⟨fault, h⟩
      cases h
    · rintro (hfits | hnone)
      · omega
      · rw [hmember] at hnone
        cases hnone
  | error fault =>
    refine ⟨fun _ => ?_, fun _ => ⟨fault, rfl⟩⟩
    by_cases hfits : Nat.ofDigitChars 10 t 0 < 0x10000000000000000
    · exact .inl hfits
    · right
      cases hmember : Json.field? members (String.ofList t) with
      | none => rfl
      | some w =>
        have hlong : 0x10000000000000000 ≤ Nat.ofDigitChars 10 t 0 := by omega
        rw [(enter_digits_eq_ok_iff hdigits).mpr ⟨hlong, hmember⟩] at henter
        cases henter

-- A walk that comes to digits at an object stops there when they fit 64 bits, whatever the names of
-- the members are. Digits that do not fit lead to the member of that name, where there is one.
theorem walk_digits_at_object {s : String} (htext : (texts s)[k]? = some t)
    (hdigits : ∀ c ∈ t, c.isDigit = true)
    (hat : ((ofString s).take k).walk v = .ok (.obj members)) :
    ((∃ fault, (ofString s).walk v = .error fault ∧ fault.depth = k) ↔
      Nat.ofDigitChars 10 t 0 < 0x10000000000000000 ∨
        Json.field? members (String.ofList t) = none) ∧
    (Nat.ofDigitChars 10 t 0 < 0x10000000000000000 →
      (ofString s).walk v =
        .error (.notIndexable (.index (Nat.ofDigitChars 10 t 0)) "object" k)) ∧
    ∀ w, ((ofString s).take (k + 1)).walk v = .ok w ↔
      0x10000000000000000 ≤ Nat.ofDigitChars 10 t 0 ∧
        Json.field? members (String.ofList t) = some w := by
  have hnext : (ofString s).segments[k]? = some (Segment.ofText t) := by
    rw [segments_ofString, List.getElem?_map, htext, Option.map_some]
  refine ⟨?_, fun hfits => ?_, fun w => ?_⟩
  · rw [exists_fault_at_iff hnext hat, enter_digits_eq_error_iff hdigits]
  · exact walk_eq_error_of_enter hnext hat (enter_digits_of_lt hdigits hfits)
  · rw [walk_take_succ hnext hat, enter_digits_eq_ok_iff hdigits]

-- An object in another, whose only member is named by digits.
def numbered (digits : String) : Json := .obj [("stock", .obj [(digits, .ofNat 1)])]

theorem walk_digits_at_object_numbered :
    (texts "stock[007]")[1]? = some "007".toList ∧
      ((ofString "stock[007]").take 1).walk (numbered "007") = .ok (.obj [("007", .ofNat 1)]) ∧
      (ofString "stock[007]").walk (numbered "007") =
        .error (.notIndexable (.index 7) "object" 1) ∧
      ((ofString "stock.18446744073709551616").take 2).walk (numbered "18446744073709551616") =
        .ok (.ofNat 1) := by
  have htext : (texts "stock[007]")[1]? = some "007".toList := by decide
  have hdigits : ∀ c ∈ "007".toList, c.isDigit = true := by simp
  have hat : ((ofString "stock[007]").take 1).walk (numbered "007") =
      .ok (.obj [("007", .ofNat 1)]) := by rfl
  have hshort := (walk_digits_at_object htext hdigits hat).2.1 (by decide)
  have hlong : ∀ c ∈ "18446744073709551616".toList, c.isDigit = true := by simp
  have htext' : (texts "stock.18446744073709551616")[1]? = some "18446744073709551616".toList := by
    decide
  have hat' : ((ofString "stock.18446744073709551616").take 1).walk
      (numbered "18446744073709551616") = .ok (.obj [("18446744073709551616", .ofNat 1)]) := by rfl
  have hmember := (walk_digits_at_object htext' hlong hat').2.2 (.ofNat 1)
  exact ⟨htext, hat, hshort, hmember.mpr ⟨by decide, by rfl⟩⟩

-- The first number that takes more than 64 bits, as the name of a member.
theorem walk_digits_eq_ok :
    (texts "18446744073709551616")[0]? = some "18446744073709551616".toList ∧
      (∀ c ∈ "18446744073709551616".toList, c.isDigit = true) ∧
      ((ofString "18446744073709551616").take 0).walk (.obj [("18446744073709551616", .ofNat 1)]) =
        .ok (.obj [("18446744073709551616", .ofNat 1)]) ∧
      (ofString "18446744073709551616").walk (.obj [("18446744073709551616", .ofNat 1)]) =
        .ok (.ofNat 1) := by
  have htext : (texts "18446744073709551616")[0]? = some "18446744073709551616".toList := by decide
  have hdigits : ∀ c ∈ "18446744073709551616".toList, c.isDigit = true := by simp
  exact ⟨htext, hdigits, by rfl, by rfl⟩

end Stepwise.FieldPath
