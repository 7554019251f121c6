import Stepwise.Proofs.Pointer.Spelling

namespace Stepwise

variable {s : Segment} {segments before after : List Segment} {u v w : Json} {start m n : Nat}

-- A place leads to an item of an array, and a name to a member of an object.
inductive Segment.Enters : Segment → Json → Json → Prop
  | item {place : Nat} {items : List Json} {w : Json} (h : items[place]? = some w) :
    Enters (.index place) (.arr items) w
  | member {name : String} {members : List (String × Json)} {w : Json}
    (h : Json.field? members name = some w) : Enters (.key name) (.obj members) w

theorem Segment.Enters.unique (hu : s.Enters v u) (hw : s.Enters v w) : u = w := by
  cases hu with
  | item hu =>
    cases hw with
    | item hw => exact Option.some.inj (hu.symm.trans hw)
  | member hu =>
    cases hw with
    | member hw => exact Option.some.inj (hu.symm.trans hw)

namespace FieldPath

-- Segments that lead from one value to another, one after the other.
inductive Leads : List Segment → Json → Json → Prop
  | nil {v : Json} : Leads [] v v
  | cons {s : Segment} {rest : List Segment} {u v w : Json} (hs : s.Enters v u)
    (hrest : Leads rest u w) : Leads (s :: rest) v w

theorem leads_cons_iff : Leads (s :: segments) v w ↔ ∃ u, s.Enters v u ∧ Leads segments u w := by
  constructor
  · intro h
    cases h with
    | cons hs hrest => exact ⟨_, hs, hrest⟩
  · rintro ⟨u, hs, hrest⟩
    exact .cons hs hrest

theorem leads_append_iff :
    Leads (before ++ after) v w ↔ ∃ u, Leads before v u ∧ Leads after u w := by
  induction before generalizing v with
  | nil =>
    constructor
    · intro h
      exact ⟨v, .nil, h⟩
    · rintro ⟨u, hnil, h⟩
      cases hnil
      exact h
  | cons s rest ih =>
    rw [List.cons_append, leads_cons_iff]
    constructor
    · rintro ⟨x, hs, h⟩
      obtain ⟨u, hrest, hafter⟩ := ih.1 h
      exact ⟨u, .cons hs hrest, hafter⟩
    · rintro ⟨u, h, hafter⟩
      obtain ⟨x, hs, hrest⟩ := leads_cons_iff.1 h
      exact ⟨x, hs, ih.2 ⟨u, hrest, hafter⟩⟩

theorem exists_leads_take_of_le (hmn : m ≤ n) (h : Leads (segments.take n) v w) :
    ∃ u, Leads (segments.take m) v u := by
  have hsplit : segments.take n = segments.take m ++ (segments.take n).drop m := by
    have htake : (segments.take n).take m = segments.take m := by
      rw [List.take_take, Nat.min_eq_left hmn]
    rw [← htake, List.take_append_drop]
  rw [hsplit] at h
  obtain ⟨u, hu, -⟩ := leads_append_iff.1 h
  exact ⟨u, hu⟩

theorem enter_eq_ok_iff : enter start s v = .ok w ↔ s.Enters v w := by
  constructor
  · intro h
    unfold enter at h
    split at h
    · split at h
      · next hitem =>
        cases h
        exact .item hitem
      · cases h
    · split at h
      · next hmember =>
        cases h
        exact .member hmember
      · cases h
    · cases h
  · intro h
    cases h with
    | item h => simp only [enter, h]
    | member h => simp only [enter, h]

-- Where a walk starts to count its segments does not change where it leads.
theorem walkFrom_eq_ok_iff : walkFrom start segments v = .ok w ↔ Leads segments v w := by
  induction segments generalizing start v with
  | nil =>
    constructor
    · intro h
      cases h
      exact .nil
    · intro h
      cases h
      rfl
  | cons s rest ih =>
    rw [leads_cons_iff, walkFrom]
    constructor
    · intro h
      split at h
      · next u hu => exact ⟨u, enter_eq_ok_iff.1 hu, ih.1 h⟩
      · cases h
    · rintro ⟨u, hu, h⟩
      simp only [enter_eq_ok_iff.2 hu, ih.2 h]

theorem walk_eq_ok_iff {path : FieldPath} : path.walk v = .ok w ↔ Leads path.segments v w :=
  walkFrom_eq_ok_iff

-- The number of the segment at which a walk stopped.
def Fault.depth : Fault → Nat
  | outOfBounds _ _ depth => depth
  | missingKey _ depth => depth
  | notIndexable _ _ depth => depth

theorem Fault.exists_message (fault : Fault) :
    ∃ head tail, fault.message = head ++ "segment " ++ toString fault.depth ++ tail := by
  cases fault with
  | outOfBounds place length depth =>
    have hat : ") at segment " = ") at " ++ "segment " := rfl
    refine ⟨"index " ++ toString place ++ " out of bounds (length " ++ toString length ++ ") at ",
      "", ?_⟩
    unfold message
    simp only [Fault.depth, hat, String.append_assoc, String.append_empty]
  | missingKey name depth =>
    have hat : "\" at segment " = "\" at " ++ "segment " := rfl
    refine ⟨"missing key \"" ++ name ++ "\" at ", "", ?_⟩
    unfold message
    simp only [Fault.depth, hat, String.append_assoc, String.append_empty]
  | notIndexable segment typeName depth =>
    refine ⟨"", " (" ++ segment.text ++ ") cannot index a " ++ typeName, ?_⟩
    unfold message
    simp only [Fault.depth, String.append_assoc, String.empty_append]

theorem depth_of_enter {fault : Fault} (h : enter start s v = .error fault) : fault.depth = start := by
  unfold enter at h
  split at h
  · split at h
    · cases h
    · cases h
      rfl
  · split at h
    · cases h
    · cases h
      rfl
  · cases h
    rfl

-- Induction on the segments: the walk stops at the first of them, or the rest of the walk stops.
theorem depth_of_walkFrom {fault : Fault} (h : walkFrom start segments v = .error fault) :
    ∃ k, fault.depth = start + k ∧ (∃ u, Leads (segments.take k) v u) ∧
      ∀ u, ¬ Leads (segments.take (k + 1)) v u := by
  induction segments generalizing start v with
  | nil => cases h
  | cons s rest ih =>
    rw [walkFrom] at h
    split at h
    · next x hx =>
      have hs : s.Enters v x := enter_eq_ok_iff.1 hx
      obtain ⟨k, hdepth, ⟨u, hu⟩, hnone⟩ := ih h
      have hlast : ∀ u, ¬ Leads ((s :: rest).take (k + 1 + 1)) v u := by
        intro u hlead
        rw [List.take_succ_cons] at hlead
        obtain ⟨y, hy, hrest⟩ := leads_cons_iff.1 hlead
        rw [hy.unique hs] at hrest
        exact hnone u hrest
      refine ⟨k + 1, by omega, ⟨u, ?_⟩, hlast⟩
      rw [List.take_succ_cons]
      exact .cons hs hu
    · next fault' hfault =>
      cases h
      refine ⟨0, depth_of_enter hfault, ⟨v, .nil⟩, ?_⟩
      intro u hlead
      obtain ⟨y, hy, -⟩ := leads_cons_iff.1 hlead
      rw [enter_eq_ok_iff.2 hy] at hfault
      cases hfault

-- The path of the first segments.
def take (path : FieldPath) (n : Nat) : FieldPath := ⟨path.segments.take n⟩

theorem walk_take_eq_ok_iff {path : FieldPath} :
    (path.take n).walk v = .ok w ↔ Leads (path.segments.take n) v w := walk_eq_ok_iff

theorem exists_walk_error_iff {path : FieldPath} :
    (∃ fault, path.walk v = .error fault) ↔ ∀ w, ¬ Leads path.segments v w := by
  constructor
  · rintro ⟨fault, h⟩ w hlead
    rw [walk_eq_ok_iff.2 hlead] at h
    cases h
  · intro h
    cases hwalk : path.walk v with
    | ok w => exact absurd (walk_eq_ok_iff.1 hwalk) (h w)
    | error fault => exact ⟨fault, rfl⟩

-- The number in the error of a walk is the only one for which the first segments lead somewhere and
-- one more does not.
theorem depth_eq_iff {path : FieldPath} {fault : Fault} (h : path.walk v = .error fault) :
    fault.depth = n ↔ (∃ u, (path.take n).walk v = .ok u) ∧
      ∃ e, (path.take (n + 1)).walk v = .error e := by
  obtain ⟨k, hdepth, ⟨u, hu⟩, hnone⟩ := depth_of_walkFrom h
  rw [Nat.zero_add] at hdepth
  constructor
  · rintro rfl
    rw [hdepth]
    exact ⟨⟨u, walk_take_eq_ok_iff.2 hu⟩, exists_walk_error_iff.2 hnone⟩
  · rintro ⟨⟨w, hw⟩, hstop⟩
    have hlead : Leads (path.segments.take n) v w := walk_take_eq_ok_iff.1 hw
    have hstuck : ∀ w, ¬ Leads (path.segments.take (n + 1)) v w := exists_walk_error_iff.1 hstop
    have hle : n ≤ k := by
      by_contra hlt
      obtain ⟨x, hx⟩ := exists_leads_take_of_le (m := k + 1) (by omega) hlead
      exact hnone x hx
    have hge : k ≤ n := by
      by_contra hlt
      obtain ⟨x, hx⟩ := exists_leads_take_of_le (m := n + 1) (by omega) hu
      exact hstuck x hx
    omega

theorem segments_append_point (s t : String) :
    (ofString (s ++ "." ++ t)).segments = (ofString s).segments ++ (ofString t).segments := by
  have htext : (s ++ "." ++ t).toList = s.toList ++ '.' :: t.toList := by simp
  rw [ofString, htext, segments_append_cons (.inl rfl)]
  rfl

-- Two paths with a point between them are walked one after the other. A walk that fails tells how
-- many of its segments could be walked.
theorem walk_compose (s t : String) :
    (ofString (s ++ "." ++ t)).segments = (ofString s).segments ++ (ofString t).segments ∧
    (∀ v w, (ofString (s ++ "." ++ t)).walk v = .ok w ↔
      ∃ u, (ofString s).walk v = .ok u ∧ (ofString t).walk u = .ok w) ∧
    ∀ (path : FieldPath) v fault, path.walk v = .error fault →
      (∃ head tail, fault.message = head ++ "segment " ++ toString fault.depth ++ tail) ∧
      ∀ n, fault.depth = n ↔ (∃ u, (path.take n).walk v = .ok u) ∧
        ∃ e, (path.take (n + 1)).walk v = .error e := by
  refine ⟨segments_append_point s t, fun v w => ?_, fun path v fault h => ?_⟩
  · simp only [walk_eq_ok_iff]
    rw [segments_append_point, leads_append_iff]
  · exact ⟨fault.exists_message, fun n => depth_eq_iff h⟩

def stock : Json := .obj [("items", .arr [.obj [("price", .ofNat 1)]])]

theorem walk_compose_stock :
    (ofString "items[0].cost").walk stock = .error (.missingKey "cost" 2) ∧
      (∃ u, ((ofString "items[0].cost").take 2).walk stock = .ok u) ∧
      ∃ e, ((ofString "items[0].cost").take 3).walk stock = .error e := by
  have hwalk : (ofString "items[0].cost").walk stock = .error (.missingKey "cost" 2) := by
    rfl
  have hdepth := ((walk_compose "items" "[0].cost").2.2 _ _ _ hwalk).2
  exact ⟨hwalk, (hdepth 2).1 rfl⟩

end FieldPath

end Stepwise
