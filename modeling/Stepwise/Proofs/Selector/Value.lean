import Stepwise.Selector.Value

namespace Stepwise.Selector.Value

variable {ts ts' : List Token} {vs vs' vs'' : List Value} {t : Token}

-- Words that stand for these values wherever they are read, because their brackets are matched.
def Folds (ts : List Token) (vs : List Value) : Prop :=
  ∀ f : Frame, ts.foldl Frame.push f = ⟨vs.reverse ++ f.current, f.outer⟩

namespace Folds

theorem nil : Folds [] [] := by
  intro f
  rfl

theorem append (h : Folds ts vs) (h' : Folds ts' vs') : Folds (ts ++ ts') (vs ++ vs') := by
  intro f
  rw [List.foldl_append, h, h']
  simp

theorem plain (hopener : ∀ o, t ≠ .opener o) (hcloser : ∀ c, t ≠ .closer c) :
    Folds [t] [.token t] := by
  intro f
  cases t with
  | opener o => exact absurd rfl (hopener o)
  | closer c => exact absurd rfl (hcloser c)
  | _ => rfl

theorem block (o : Opener) (h : Folds ts vs) :
    Folds (.opener o :: ts ++ [.closer o.closer]) [.block o vs] := by
  intro f
  have hopen : Frame.push f (.opener o) = ⟨[], (o, f.current) :: f.outer⟩ := by
    simp [Frame.push]
  have hclose : Frame.push ⟨vs.reverse ++ [], (o, f.current) :: f.outer⟩ (.closer o.closer) =
      ⟨.block o vs :: f.current, f.outer⟩ := by
    simp [Frame.push]
  rw [List.cons_append, List.foldl_cons, List.foldl_append, hopen, h]
  exact hclose

theorem ofTokens_eq (h : Folds ts vs) : ofTokens ts = vs := by
  rw [ofTokens, h]
  simp [close]

-- A bracket that is still open is closed at the end of the text.
theorem ofTokens_open (h : Folds ts vs) (o : Opener) (h' : Folds ts' vs') :
    ofTokens (ts ++ .opener o :: ts') = vs ++ [.block o vs'] := by
  have hopen (f : Frame) : Frame.push f (.opener o) = ⟨[], (o, f.current) :: f.outer⟩ := by
    simp [Frame.push]
  rw [ofTokens, List.foldl_append, List.foldl_cons, h, hopen, h']
  simp [close]

end Folds

-- What more words do to the values read so far: they add values, at the end or in a bracket that
-- stands last and was not closed yet.
inductive Grows : List Value → List Value → Prop
  | nil {vs : List Value} : Grows [] vs
  | cons {vs vs' : List Value} (v : Value) (htail : Grows vs vs') : Grows (v :: vs) (v :: vs')
  | inside {vs vs' more : List Value} (o : Opener) (hcontent : Grows vs vs') :
    Grows [.block o vs] (.block o vs' :: more)

namespace Grows

theorem append (vs more : List Value) : Grows vs (vs ++ more) := by
  induction vs with
  | nil => exact .nil
  | cons v vs ih => exact .cons v ih

theorem refl (vs : List Value) : Grows vs vs := by
  simpa using append vs []

theorem trans (h : Grows vs vs') (h' : Grows vs' vs'') : Grows vs vs'' := by
  induction h generalizing vs'' with
  | nil => exact .nil
  | cons v htail ih =>
    cases h' with
    | cons _ htail' => exact .cons v (ih htail')
    | inside o hcontent =>
      cases htail
      exact .inside o hcontent
  | inside o hcontent ih =>
    cases h' with
    | cons _ _ => exact .inside o hcontent
    | inside _ hcontent' => exact .inside o (ih hcontent')

theorem append_left (us : List Value) (h : Grows vs vs') : Grows (us ++ vs) (us ++ vs') := by
  induction us with
  | nil => exact h
  | cons u us ih => exact .cons u ih

theorem close {current current' : List Value} (h : Grows current.reverse current'.reverse)
    (outer : List (Opener × List Value)) :
    Grows (Value.close current outer) (Value.close current' outer) := by
  induction outer generalizing current current' with
  | nil => exact h
  | cons p outer ih =>
    obtain ⟨o, before⟩ := p
    refine ih ?_
    rw [List.reverse_cons, List.reverse_cons]
    exact append_left _ (.inside o h)

theorem push (f : Frame) (t : Token) :
    Grows (Value.close f.current f.outer) (Value.close (f.push t).current (f.push t).outer) := by
  have hadded (v : Value) :
      Grows (Value.close f.current f.outer) (Value.close (v :: f.current) f.outer) := by
    refine close ?_ f.outer
    rw [List.reverse_cons]
    exact append _ _
  unfold Frame.push
  split
  · next o => exact hadded (.block o [])
  · next c o before outer houter =>
    split
    · -- The bracket is closed already where the text ends.
      rw [houter]
      exact refl _
    · exact hadded _
  · exact hadded _

theorem ofTokens (ts more : List Token) :
    Grows (Value.ofTokens ts) (Value.ofTokens (ts ++ more)) := by
  rw [Value.ofTokens, Value.ofTokens, List.foldl_append]
  generalize ts.foldl Frame.push ⟨[], []⟩ = f
  induction more generalizing f with
  | nil => exact refl _
  | cons t more ih => exact (push f t).trans (ih _)

theorem exists_append (hne : vs' ≠ []) (h : Grows (vs ++ vs') vs'') :
    ∃ more, vs'' = vs ++ more ∧ Grows vs' more := by
  induction vs generalizing vs'' with
  | nil => exact ⟨vs'', rfl, h⟩
  | cons v vs ih =>
    rw [List.cons_append] at h
    generalize hlast : vs ++ vs' = last at h
    cases h with
    | cons _ htail =>
      subst hlast
      obtain ⟨more, rfl, hmore⟩ := ih htail
      exact ⟨more, rfl, hmore⟩
    | inside o _ => exact absurd (List.append_eq_nil_iff.1 hlast).2 hne

theorem exists_tokens (h : Grows (ts.map .token) vs) : ∃ more, vs = ts.map .token ++ more := by
  induction ts generalizing vs with
  | nil => exact ⟨vs, rfl⟩
  | cons t ts ih =>
    cases h with
    | cons _ htail =>
      obtain ⟨more, rfl⟩ := ih htail
      exact ⟨more, rfl⟩

theorem exists_block {o : Opener} (h : Grows [.block o vs] vs') :
    ∃ content more, vs' = .block o content :: more ∧ Grows vs content := by
  cases h with
  | cons _ _ => exact ⟨vs, _, rfl, refl vs⟩
  | inside _ hcontent => exact ⟨_, _, rfl, hcontent⟩

end Grows

-- Of a text that goes on in any way the words read so far are kept, and so is an open bracket.

theorem Folds.exists_ofTokens (h : Folds ts vs) (h' : Folds ts' (ts'.map .token)) (hne : ts' ≠ [])
    (more : List Token) : ∃ rest,
      ofTokens (ts ++ (ts' ++ more)) = vs ++ (ts'.map .token ++ rest) := by
  have hgrows := Grows.ofTokens (ts ++ ts') more
  rw [(h.append h').ofTokens_eq, List.append_assoc] at hgrows
  obtain ⟨last, hvalues, hlast⟩ := hgrows.exists_append (by simpa using hne)
  obtain ⟨rest, rfl⟩ := hlast.exists_tokens
  exact ⟨rest, hvalues⟩

theorem Folds.exists_ofTokens_open (h : Folds ts vs) (o : Opener)
    (h' : Folds ts' (ts'.map .token)) (more : List Token) : ∃ content rest,
      ofTokens (ts ++ .opener o :: (ts' ++ more)) =
        vs ++ .block o (ts'.map .token ++ content) :: rest := by
  have hgrows := Grows.ofTokens (ts ++ .opener o :: ts') more
  rw [h.ofTokens_open o h', List.append_assoc, List.cons_append] at hgrows
  obtain ⟨last, hvalues, hlast⟩ := hgrows.exists_append (List.cons_ne_nil _ _)
  obtain ⟨block, rest, rfl, hblock⟩ := hlast.exists_block
  obtain ⟨content, rfl⟩ := hblock.exists_tokens
  exact ⟨content, rest, hvalues⟩

-- The same frame behind values that were read before all of it, outside its brackets.
inductive Behind (vs : List Value) : Frame → Frame → Prop
  | top (current : List Value) : Behind vs ⟨current, []⟩ ⟨current ++ vs.reverse, []⟩
  | inside {before before' : List Value} {outer outer' : List (Opener × List Value)}
    (o : Opener) (current : List Value) (houter : Behind vs ⟨before, outer⟩ ⟨before', outer'⟩) :
    Behind vs ⟨current, (o, before) :: outer⟩ ⟨current, (o, before') :: outer'⟩

namespace Behind

variable {f f' : Frame} {current current' : List Value} {outer outer' : List (Opener × List Value)}

theorem cons (v : Value) (h : Behind vs ⟨current, outer⟩ ⟨current', outer'⟩) :
    Behind vs ⟨v :: current, outer⟩ ⟨v :: current', outer'⟩ := by
  cases h with
  | top => exact .top (v :: current)
  | inside o _ houter => exact .inside o (v :: current) houter

theorem push (h : Behind vs f f') (t : Token) : Behind vs (f.push t) (f'.push t) := by
  cases h with
  | top current =>
    cases t with
    | opener o => exact .inside o [] (.top current)
    | _ => exact .top (_ :: current)
  | inside o current houter =>
    cases t with
    | opener o' => exact .inside o' [] (.inside o current houter)
    | closer c =>
      by_cases hc : o.closer = c
      · simpa [Frame.push, hc] using houter.cons (.block o current.reverse)
      · simpa [Frame.push, hc] using Behind.inside o (.token (.closer c) :: current) houter
    | _ => exact .inside o (_ :: current) houter

theorem foldl (h : Behind vs f f') (ts : List Token) :
    Behind vs (ts.foldl Frame.push f) (ts.foldl Frame.push f') := by
  induction ts generalizing f f' with
  | nil => exact h
  | cons t ts ih => exact ih (h.push t)

theorem close_eq (h : Behind vs ⟨current, outer⟩ ⟨current', outer'⟩) :
    Value.close current' outer' = vs ++ Value.close current outer := by
  induction outer generalizing current current' outer' with
  | nil =>
    cases h
    simp [Value.close]
  | cons p outer ih =>
    cases h with
    | inside o _ houter =>
      rw [Value.close, Value.close]
      exact ih (houter.cons (.block o current.reverse))

end Behind

-- Words with their brackets matched and the words behind them are put together apart.
theorem Folds.ofTokens_append (h : Folds ts vs) (more : List Token) :
    ofTokens (ts ++ more) = vs ++ ofTokens more := by
  have hbehind : Behind vs (more.foldl Frame.push ⟨[], []⟩)
      (more.foldl Frame.push ⟨vs.reverse ++ [], []⟩) := by
    rw [List.append_nil]
    exact (Behind.top []).foldl more
  rw [ofTokens, List.foldl_append, h]
  exact hbehind.close_eq

end Stepwise.Selector.Value
