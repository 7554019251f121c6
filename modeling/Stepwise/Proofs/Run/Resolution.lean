import Stepwise.Proofs.Pointer.Basic
import Stepwise.Proofs.Pointer.Walk
import Stepwise.Proofs.Run.Arguments
import Stepwise.Proofs.Text.Utf8

namespace Stepwise

variable {place : Nat} {s : Step} {results : List Json} {arg : String} {v w : Json} {p : Pointer}
  {args : Args} {es : List (String × Json)} {e : RunError}

-- An object whose members are exactly `from` and `field`, of whatever types.
def Json.HasPointerNames (v : Json) : Prop :=
  ∃ (members : List (String × Json)) (x y : Json), v = .obj members ∧
    members.Perm [("from", x), ("field", y)]

namespace Pointer

-- The object that says which step and which field.
def Written (p : Pointer) (v : Json) : Prop :=
  ∃ members, v = .obj members ∧ p.step < 0x10000000000000000 ∧
    members.Perm [("from", .ofNat p.step), ("field", .str p.field)]

-- What a pointer points to: the field leads there from the result of the step.
def Refers (p : Pointer) (results : List Json) (w : Json) : Prop :=
  ∃ root, results[p.step]? = some root ∧ FieldPath.Leads (FieldPath.ofString p.field).segments root w

theorem hasShape_iff : hasShape v = true ↔ v.HasPointerNames := by
  cases v with
  | obj members =>
    have hnames (x y : Json) : members.Perm [("from", x), ("field", y)] ↔ members.length = 2 ∧
        Json.field? members "from" = some x ∧ Json.field? members "field" = some y :=
      perm_members_iff
    simp only [hasShape, Json.HasPointerNames, Bool.and_eq_true, beq_iff_eq,
      Option.isSome_iff_exists, Json.obj.injEq]
    constructor
    · rintro ⟨⟨hlength, x, hx⟩, y, hy⟩
      exact ⟨members, x, y, rfl, (hnames x y).2 ⟨hlength, hx, hy⟩⟩
    · rintro ⟨_, x, y, rfl, hperm⟩
      obtain ⟨hlength, hx, hy⟩ := (hnames x y).1 hperm
      exact ⟨⟨hlength, x, hx⟩, y, hy⟩
  | _ => simp [hasShape, Json.HasPointerNames]

theorem detect?_eq_ok_iff_written : detect? v = some (.ok p) ↔ p.Written v := detect?_eq_ok_iff

theorem Written.unique {q : Pointer} (hp : p.Written v) (hq : q.Written v) : p = q := by
  have hboth := detect?_eq_ok_iff_written.2 hp
  rw [detect?_eq_ok_iff_written.2 hq] at hboth
  exact (Except.ok.inj (Option.some.inj hboth)).symm

theorem resolve_eq_ok_iff : p.resolve results = .ok w ↔ p.Refers results w := by
  simp only [Refers, ← FieldPath.walk_eq_ok_iff]
  unfold resolve
  cases results[p.step]? with
  | none => simp
  | some root =>
    simp only [Option.some.injEq, exists_eq_left']
    cases (FieldPath.ofString p.field).walk root <;> simp

end Pointer

-- What a value stands for as an argument: a pointer for what it points to, whatever that is, and
-- any other value for itself, whatever is inside it.
inductive Denotes (results : List Json) (v : Json) : Json → Prop
  | literal (hv : ¬ v.HasPointerNames) : Denotes results v v
  | pointer {p : Pointer} {w : Json} (hp : p.Written v) (hw : p.Refers results w) : Denotes results v w

-- The error of an argument that stands for nothing.
inductive Refused (place : Nat) (results : List Json) (arg : String) (v : Json) : RunError → Prop
  | outOfRange {p : Pointer} (hp : p.Written v) (hout : results.length ≤ p.step) :
    Refused place results arg v (.pointerOutOfRange place arg p.step results.length)
  | path {p : Pointer} {root : Json} {fault : FieldPath.Fault} (hp : p.Written v)
    (hroot : results[p.step]? = some root)
    (hwalk : (FieldPath.ofString p.field).walk root = .error fault) :
    Refused place results arg v (.pointerField place arg p.step p.field (.path fault))
  | malformed {cause : Pointer.Malformed} (hnames : v.HasPointerNames)
    (hnone : ∀ p : Pointer, ¬ p.Written v) :
    Refused place results arg v (.pointerField place arg (readablePart v).step (readablePart v).field
      (.malformed cause))

theorem resolveArg_eq_ok_iff : resolveArg place results arg v = .ok w ↔ Denotes results v w := by
  constructor
  · intro h
    unfold resolveArg at h
    split at h
    · next hnone =>
      cases h
      refine .literal fun hnames => ?_
      rw [Pointer.detect?_eq_none_iff, Pointer.hasShape_iff.2 hnames] at hnone
      cases hnone
    · cases h
    · next p hp =>
      split at h
      · next hw =>
        cases h
        exact .pointer (Pointer.detect?_eq_ok_iff_written.1 hp) (Pointer.resolve_eq_ok_iff.1 hw)
      · cases h
  · intro h
    cases h with
    | literal hv =>
      have hshape : Pointer.hasShape v = false :=
        Bool.eq_false_iff.2 fun hshape => hv (Pointer.hasShape_iff.1 hshape)
      exact resolveArg_of_detect?_none (Pointer.detect?_eq_none_iff.2 hshape)
    | pointer hp hw =>
      simp only [resolveArg, Pointer.detect?_eq_ok_iff_written.2 hp, Pointer.resolve_eq_ok_iff.2 hw]

theorem refused_of_resolveArg (h : resolveArg place results arg v = .error e) :
    Refused place results arg v e := by
  unfold resolveArg at h
  split at h
  · cases h
  · next cause hcause =>
    cases h
    obtain ⟨hshape, -⟩ := Pointer.exists_malformed_iff.1 ⟨cause, hcause⟩
    refine .malformed (Pointer.hasShape_iff.1 hshape) fun p hp => ?_
    rw [Pointer.detect?_eq_ok_iff_written.2 hp] at hcause
    cases hcause
  · next p hp =>
    have hwritten : p.Written v := Pointer.detect?_eq_ok_iff_written.1 hp
    split at h
    · cases h
    · next fault hfault =>
      cases h
      unfold Pointer.resolve at hfault
      split at hfault
      · next hnone =>
        cases hfault
        exact .outOfRange hwritten (List.getElem?_eq_none_iff.1 hnone)
      · next root hroot =>
        split at hfault
        · cases hfault
        · next walkFault hwalk =>
          cases hfault
          exact .path hwritten hroot hwalk

-- The error is one of range just where the pointer is well formed and points too far.
theorem Refused.outOfRange_iff (h : Refused place results arg v e) :
    (∃ target length, e = .pointerOutOfRange place arg target length) ↔
      ∃ p : Pointer, p.Written v ∧ results.length ≤ p.step := by
  cases h with
  | @outOfRange p hp hout => exact ⟨fun _ => ⟨p, hp, hout⟩, fun _ => ⟨_, _, rfl⟩⟩
  | @path p root fault hp hroot hwalk =>
    have hlt : p.step < results.length := (List.getElem?_eq_some_iff.1 hroot).1
    constructor
    · rintro ⟨_, _, h⟩
      cases h
    · rintro ⟨q, hq, hout⟩
      rw [hp.unique hq] at hlt
      omega
  | malformed hnames hnone =>
    constructor
    · rintro ⟨_, _, h⟩
      cases h
    · rintro ⟨q, hq, -⟩
      exact absurd hq (hnone q)

theorem not_denotes_of_resolveArg (h : resolveArg place results arg v = .error e) :
    ¬ Denotes results v w := by
  intro hw
  rw [resolveArg_eq_ok_iff.2 hw] at h
  cases h

-- The error is that of the first argument that has one.
theorem split_of_resolveEntries_error (h : resolveEntries place results es = .error e) :
    ∃ before x after, es = before ++ x :: after ∧ (∀ y ∈ before, ∃ w, Denotes results y.2 w) ∧
      resolveArg place results x.1 x.2 = .error e := by
  induction es with
  | nil => cases h
  | cons x rest ih =>
    obtain ⟨arg, v⟩ := x
    unfold resolveEntries at h
    split at h
    · next hx =>
      cases h
      exact ⟨[], (arg, v), rest, rfl, by simp, hx⟩
    · next w hw =>
      obtain ⟨before, x, after, rfl, hbefore, hx⟩ := ih (map_eq_error_iff.1 h)
      refine ⟨(arg, v) :: before, x, after, rfl, ?_, hx⟩
      exact List.forall_mem_cons.2 ⟨⟨w, resolveArg_eq_ok_iff.1 hw⟩, hbefore⟩

theorem Denotes.unique {u : Json} (hu : Denotes results v u) (hw : Denotes results v w) : u = w := by
  have hboth : resolveArg 0 results "" v = .ok u := resolveArg_eq_ok_iff.2 hu
  rw [resolveArg_eq_ok_iff.2 hw] at hboth
  exact (Except.ok.inj hboth).symm

-- The arguments before the one that is reported stand for something, and those behind it come later
-- in the order of names.
theorem exists_refused (h : resolveArgs place s results = .error e) :
    ∃ name v, s.args.get? name = some v ∧ (∀ w, ¬ Denotes results v w) ∧
      (∀ other u, s.args.get? other = some u → (∀ w, ¬ Denotes results u w) →
        other = name ∨ Text.encode name.toList < Text.encode other.toList) ∧
      Refused place results name v e := by
  obtain ⟨before, ⟨name, v⟩, after, hentries, hbefore, hx⟩ :=
    split_of_resolveEntries_error (map_eq_error_iff.1 h)
  change s.args.entries = before ++ (name, v) :: after at hentries
  have hascending := s.args.ascending
  rw [hentries] at hascending
  have hlater : ∀ y ∈ after, name < y.1 :=
    (List.pairwise_cons.1 (List.pairwise_append.1 hascending).2.1).1
  have hget : s.args.get? name = some v := Dict.get?_of_mem (by rw [hentries]; simp)
  refine ⟨name, v, hget, fun w => not_denotes_of_resolveArg hx, ?_, refused_of_resolveArg hx⟩
  intro other u hother hnone
  have hmem := Dict.mem_of_get? hother
  rw [hentries, List.mem_append, List.mem_cons] at hmem
  rcases hmem with hmem | hmem | hmem
  · obtain ⟨w, hw⟩ := hbefore _ hmem
    exact absurd hw (hnone w)
  · exact .inl (congrArg Prod.fst hmem)
  · exact .inr (Text.encode_lt_encode (String.lt_iff.1 (hlater _ hmem)))

theorem keys_of_resolveArgs (h : resolveArgs place s results = .ok args) :
    args.keys = s.args.keys := map_fst_of_forall₂ (entries_of_resolveArgs h)

theorem exists_resolveArgs_iff :
    (∃ args, resolveArgs place s results = .ok args) ↔
      ∀ name v, s.args.get? name = some v → ∃ w, Denotes results v w := by
  constructor
  · rintro ⟨args, h⟩ name v hget
    obtain ⟨w, -, hw⟩ := get?_of_resolveArgs h hget
    exact ⟨w, resolveArg_eq_ok_iff.1 hw⟩
  · intro h
    cases hargs : resolveArgs place s results with
    | ok args => exact ⟨args, rfl⟩
    | error e =>
      obtain ⟨name, v, hget, hnone, -⟩ := exists_refused hargs
      obtain ⟨w, hw⟩ := h name v hget
      exact absurd hw (hnone w)

-- Arguments of the same names that are what the step's own ones stand for.
def Denoted (results : List Json) (own args : Args) : Prop :=
  args.keys = own.keys ∧
    ∀ name v, own.get? name = some v → ∃ w, args.get? name = some w ∧ Denotes results v w

theorem Denoted.unique {own others : Args} (h : Denoted results own args)
    (h' : Denoted results own others) : args = others := by
  refine Dict.ext_get? fun name => ?_
  by_cases hname : name ∈ own.keys
  · obtain ⟨v, hget⟩ := Dict.mem_keys_iff.1 hname
    obtain ⟨w, hw, hdenotes⟩ := h.2 name v hget
    obtain ⟨w', hw', hdenotes'⟩ := h'.2 name v hget
    rw [hw, hw', hdenotes.unique hdenotes']
  · have hnone {d : Args} (hkeys : d.keys = own.keys) : d.get? name = none := by
      rw [Option.eq_none_iff_forall_ne_some]
      intro v hget
      exact hname (hkeys ▸ Dict.mem_keys_iff.2 ⟨v, hget⟩)
    rw [hnone h.1, hnone h'.1]

theorem resolveArgs_eq_ok_iff :
    resolveArgs place s results = .ok args ↔ Denoted results s.args args := by
  have hdenoted {args : Args} (h : resolveArgs place s results = .ok args) :
      Denoted results s.args args := by
    refine ⟨keys_of_resolveArgs h, fun name v hget => ?_⟩
    obtain ⟨w, hw, hres⟩ := get?_of_resolveArgs h hget
    exact ⟨w, hw, resolveArg_eq_ok_iff.1 hres⟩
  constructor
  · exact hdenoted
  · intro h
    have hall : ∀ name v, s.args.get? name = some v → ∃ w, Denotes results v w := by
      intro name v hget
      obtain ⟨w, -, hw⟩ := h.2 name v hget
      exact ⟨w, hw⟩
    obtain ⟨args', hargs⟩ := exists_resolveArgs_iff.2 hall
    rw [hargs, (hdenoted hargs).unique h]

-- The arguments of a step are resolved exactly where each of them stands for something, and then to
-- that under the same names. Otherwise the first name whose argument stands for nothing is reported,
-- with the pointer that is there; it is out of range if it is one and points too far.
theorem resolveArgs_exact (place : Nat) (s : Step) (results : List Json) :
    ((∃ args, resolveArgs place s results = .ok args) ↔
      ∀ name v, s.args.get? name = some v → ∃ w, Denotes results v w) ∧
    (∀ args, resolveArgs place s results = .ok args ↔ Denoted results s.args args) ∧
    ∀ e, resolveArgs place s results = .error e →
      ∃ name v, s.args.get? name = some v ∧ (∀ w, ¬ Denotes results v w) ∧
        (∀ other u, s.args.get? other = some u → (∀ w, ¬ Denotes results u w) →
          other = name ∨ Text.encode name.toList < Text.encode other.toList) ∧
        Refused place results name v e ∧
        ((∃ target length, e = .pointerOutOfRange place name target length) ↔
          ∃ p : Pointer, p.Written v ∧ results.length ≤ p.step) := by
  refine ⟨exists_resolveArgs_iff, fun _ => resolveArgs_eq_ok_iff, fun e h => ?_⟩
  obtain ⟨name, v, hget, hnone, hfirst, hrefused⟩ := exists_refused h
  exact ⟨name, v, hget, hnone, hfirst, hrefused, hrefused.outOfRange_iff⟩

-- What an argument points to is not resolved again, though it looks like a pointer.
example :
    resolveArgs 1 ⟨"", "Parser", .ofList [("raw", (Pointer.mk 0 "page").toJson)]⟩
        [.obj [("page", (Pointer.mk 9 "").toJson)]] =
      .ok (.ofList [("raw", (Pointer.mk 9 "").toJson)]) := rfl

end Stepwise
