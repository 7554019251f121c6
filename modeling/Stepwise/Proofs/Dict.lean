import Mathlib.Data.List.Induction
import Stepwise.Dict

namespace Stepwise.Dict

variable {α β : Type}

theorem lookup_cons (name : String) (e : String × α) (es : List (String × α)) :
    (e :: es).lookup name = if name = e.1 then some e.2 else es.lookup name := by
  obtain ⟨other, value⟩ := e
  by_cases h : name = other
  · rw [if_pos h, List.lookup_cons, h, beq_self_eq_true]
  · rw [if_neg h, List.lookup_cons, beq_false_of_ne h]

theorem lookup_place (name other : String) (value : α) (es : List (String × α)) :
    (place name value es).lookup other = if other = name then some value else es.lookup other := by
  induction es with
  | nil => simp only [place, lookup_cons]
  | cons e rest ih =>
    unfold place
    split
    · rw [lookup_cons]
    · split
      · next heq =>
        subst heq
        simp only [lookup_cons]
        split <;> rfl
      · next hne =>
        rw [lookup_cons, ih, lookup_cons]
        by_cases h : other = e.1
        · rw [if_pos h, if_neg fun hname => hne (hname.symm.trans h), if_pos h]
        · rw [if_neg h, if_neg h]

theorem get?_insert (d : Dict α) (name other : String) (value : α) :
    (d.insert name value).get? other = if other = name then some value else d.get? other :=
  lookup_place name other value d.entries

theorem place_of_forall_lt {name : String} {value : α} {es : List (String × α)}
    (h : ∀ e ∈ es, e.1 < name) : place name value es = es ++ [(name, value)] := by
  induction es with
  | nil => rfl
  | cons e rest ih =>
    have hlt : e.1 < name := h e List.mem_cons_self
    have hnot : ¬ name < e.1 := fun hback => String.lt_irrefl _ (String.lt_trans hlt hback)
    have hne : name ≠ e.1 := fun heq => String.lt_irrefl _ (heq ▸ hlt)
    rw [place, if_neg hnot, if_neg hne, ih fun x hx => h x (List.mem_cons_of_mem _ hx),
      List.cons_append]

-- Entries that come in ascending order, after those already there, stay as they come.
theorem entries_insertAll (d : Dict α) {es : List (String × α)}
    (h : (d.entries ++ es).Pairwise fun a b => a.1 < b.1) :
    (d.insertAll es).entries = d.entries ++ es := by
  induction es generalizing d with
  | nil => simp [insertAll]
  | cons e rest ih =>
    have hinsert : (d.insert e.1 e.2).entries = d.entries ++ [e] := place_of_forall_lt fun x hx =>
      (List.pairwise_append.1 h).2.2 x hx e List.mem_cons_self
    have hrest := ih (d.insert e.1 e.2) (by simpa [hinsert] using h)
    rw [hinsert] at hrest
    simpa [insertAll] using hrest

theorem entries_ofList {es : List (String × α)} (h : es.Pairwise fun a b => a.1 < b.1) :
    (ofList es).entries = es := entries_insertAll empty h

theorem entries_ofList_pair {first second : String} (h : first < second) (x y : α) :
    (ofList [(first, x), (second, y)]).entries = [(first, x), (second, y)] :=
  entries_ofList (List.pairwise_pair.2 h)

theorem lookup_of_forall_lt {name : String} {es : List (String × α)} (h : ∀ e ∈ es, name < e.1) :
    es.lookup name = none := by
  rw [List.lookup_eq_none_iff]
  intro e he
  rw [bne_iff_ne]
  rintro rfl
  exact String.lt_irrefl _ (h e he)

theorem not_lt_of_lookup {e e' : String × α} {rest rest' : List (String × α)}
    (h' : (e' :: rest').Pairwise fun a b => a.1 < b.1)
    (heq : (e :: rest).lookup e.1 = (e' :: rest').lookup e.1) : ¬ e.1 < e'.1 := by
  intro hless
  have hnone : (e' :: rest').lookup e.1 = none := lookup_of_forall_lt (List.forall_mem_cons.2
    ⟨hless, fun x hx => String.lt_trans hless ((List.pairwise_cons.1 h').1 x hx)⟩)
  rw [hnone, lookup_cons, if_pos rfl] at heq
  cases heq

-- In ascending order there is one list of entries for each content.
theorem entries_eq_of_lookup {es es' : List (String × α)}
    (h : es.Pairwise fun a b => a.1 < b.1) (h' : es'.Pairwise fun a b => a.1 < b.1)
    (heq : ∀ name, es.lookup name = es'.lookup name) : es = es' := by
  induction es generalizing es' with
  | nil =>
    cases es' with
    | nil => rfl
    | cons e' rest' =>
      have hhead := heq e'.1
      rw [List.lookup_nil, lookup_cons, if_pos rfl] at hhead
      cases hhead
  | cons e rest ih =>
    cases es' with
    | nil =>
      have hhead := heq e.1
      rw [List.lookup_nil, lookup_cons, if_pos rfl] at hhead
      cases hhead
    | cons e' rest' =>
      have hname : e.1 = e'.1 := by
        rcases Std.lt_trichotomy e.1 e'.1 with hless | hsame | hmore
        · exact absurd hless (not_lt_of_lookup h' (heq e.1))
        · exact hsame
        · exact absurd hmore (not_lt_of_lookup h (heq e'.1).symm)
      obtain ⟨hlt, hrest⟩ := List.pairwise_cons.1 h
      obtain ⟨hlt', hrest'⟩ := List.pairwise_cons.1 h'
      have hvalue := heq e.1
      rw [lookup_cons, lookup_cons, if_pos rfl, if_pos hname, Option.some.injEq] at hvalue
      rw [Prod.ext hname hvalue, ih hrest hrest' fun name => ?_]
      by_cases hfirst : name = e.1
      · rw [hfirst, lookup_of_forall_lt hlt, hname, lookup_of_forall_lt hlt']
      · have hother := heq name
        rwa [lookup_cons, lookup_cons, if_neg hfirst, if_neg (hname ▸ hfirst)] at hother

theorem lookup_of_mem {name : String} {value : α} {es : List (String × α)}
    (h : es.Pairwise fun a b => a.1 < b.1) (hmem : (name, value) ∈ es) :
    es.lookup name = some value := by
  induction es with
  | nil => cases hmem
  | cons e rest ih =>
    obtain ⟨hlt, hrest⟩ := List.pairwise_cons.1 h
    rw [lookup_cons]
    rcases List.mem_cons.1 hmem with rfl | hmem
    · exact if_pos rfl
    · have hless : e.1 < name := hlt _ hmem
      rw [if_neg fun heq => String.lt_irrefl _ (heq ▸ hless), ih hrest hmem]

theorem get?_of_mem {d : Dict α} {name : String} {value : α} (h : (name, value) ∈ d.entries) :
    d.get? name = some value := lookup_of_mem d.ascending h

theorem mem_of_get? {d : Dict α} {name : String} {value : α} (h : d.get? name = some value) :
    (name, value) ∈ d.entries := by
  obtain ⟨before, after, hentries, -⟩ := List.lookup_eq_some_iff.1 h
  rw [hentries]
  exact List.mem_append_right _ List.mem_cons_self

theorem mem_keys_iff {d : Dict α} {name : String} : name ∈ d.keys ↔ ∃ v, d.get? name = some v := by
  constructor
  · intro h
    obtain ⟨⟨_, v⟩, hmem, rfl⟩ := List.mem_map.1 h
    exact ⟨v, get?_of_mem hmem⟩
  · rintro ⟨v, hget⟩
    exact List.mem_map.2 ⟨(name, v), mem_of_get? hget, rfl⟩

theorem contains_iff {d : Dict α} {name : String} : d.contains name = true ↔ name ∈ d.keys := by
  rw [mem_keys_iff, contains, Option.isSome_iff_exists]

theorem ofList_entries (d : Dict α) : ofList d.entries = d := ext (entries_ofList d.ascending)

theorem ext_get? {d d' : Dict α} (h : ∀ name, d.get? name = d'.get? name) : d = d' :=
  ext (entries_eq_of_lookup d.ascending d'.ascending h)

theorem insert_comm (d : Dict α) {name other : String} (hne : name ≠ other) (x y : α) :
    (d.insert name x).insert other y = (d.insert other y).insert name x := by
  refine ext_get? fun n => ?_
  simp only [get?_insert]
  by_cases hname : n = name
  · rw [if_neg fun hother => hne (hname.symm.trans hother), if_pos hname, if_pos hname]
  · rw [if_neg hname, if_neg hname]

theorem insertAll_append (d : Dict α) (es es' : List (String × α)) :
    d.insertAll (es ++ es') = (d.insertAll es).insertAll es' := List.foldl_append

-- A name that is not among the entries keeps its value.
theorem get?_insertAll_of_forall_ne (d : Dict α) {name : String} {es : List (String × α)}
    (h : ∀ e ∈ es, e.1 ≠ name) : (d.insertAll es).get? name = d.get? name := by
  induction es generalizing d with
  | nil => rfl
  | cons e rest ih =>
    rw [List.forall_mem_cons] at h
    have hrest := ih (d.insert e.1 e.2) h.2
    rw [get?_insert, if_neg (Ne.symm h.1)] at hrest
    exact hrest

-- The entries that come in win over the content, and among them the last of a name.
theorem get?_insertAll (d : Dict α) (es : List (String × α)) (name : String) :
    (d.insertAll es).get? name = ((ofList es).get? name).or (d.get? name) := by
  induction es using List.reverseRecOn with
  | nil => rfl
  | append_singleton es e ih =>
    have hconcat (d : Dict α) : d.insertAll (es ++ [e]) = (d.insertAll es).insert e.1 e.2 :=
      insertAll_append d es [e]
    rw [ofList, hconcat, hconcat, get?_insert, get?_insert]
    by_cases hname : name = e.1
    · rw [if_pos hname, if_pos hname, Option.some_or]
    · rw [if_neg hname, if_neg hname, ih, ofList]

theorem insertAll_ofList (d : Dict α) (es : List (String × α)) :
    d.insertAll (ofList es).entries = d.insertAll es := by
  refine ext_get? fun name => ?_
  rw [get?_insertAll, ofList_entries, get?_insertAll]

theorem ofList_append (es es' : List (String × α)) : ofList (es ++ es') = (ofList es).insertAll es' :=
  insertAll_append empty es es'

theorem ofList_append_entries (es es' : List (String × α)) :
    ofList ((ofList es).entries ++ (ofList es').entries) = ofList (es ++ es') := by
  rw [ofList_append, ofList_entries, insertAll_ofList, ofList_append]

-- Apply a function to each value; it may look at the name.
def map (f : String → α → β) (d : Dict α) : Dict β where
  entries := d.entries.map fun e => (e.1, f e.1 e.2)
  ascending := List.pairwise_map.2 d.ascending

theorem get?_map (f : String → α → β) (d : Dict α) (name : String) :
    (d.map f).get? name = (d.get? name).map (f name) := by
  unfold get? map
  dsimp only
  induction d.entries with
  | nil => rfl
  | cons e rest ih =>
    rw [List.map_cons, lookup_cons, lookup_cons, ih]
    by_cases h : name = e.1
    · rw [if_pos h, if_pos h, Option.map_some, h]
    · rw [if_neg h, if_neg h]

theorem map_of_forall_eq {f : String → α → α} {d : Dict α} (h : ∀ e ∈ d.entries, f e.1 e.2 = e.2) :
    d.map f = d := by
  have hentries : d.entries.map (fun e => (e.1, f e.1 e.2)) = d.entries.map id :=
    List.map_congr_left fun e he => Prod.ext rfl (h e he)
  exact ext (hentries.trans (List.map_id _))

end Stepwise.Dict
