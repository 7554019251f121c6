import Stepwise.Proofs.Plan.Document
import Stepwise.Proofs.Plan.Report

namespace Stepwise

variable {items : List Json} {steps : List Step} {place : Nat} {v : Json}

theorem Step.exists_error_iff : (∃ e, Step.ofJson v = .error e) ↔ ∀ s, ¬ Step.Written v s := by
  constructor
  · rintro ⟨e, he⟩ s hs
    rw [Step.ofJson_eq_ok_iff.2 hs] at he
    cases he
  · intro h
    cases hv : Step.ofJson v with
    | error e => exact ⟨e, rfl⟩
    | ok s => exact absurd (Step.ofJson_eq_ok_iff.1 hv) (h s)

theorem violations_singleton_eq_nil_iff {s : Step} : violations [s] = [] ↔ s.faults = [] := by
  simp [violations, violationsFrom]

-- A step has a violation with its number where it has a fault.
theorem exists_violation_iff : (∃ x ∈ violations steps, x.step = some place) ↔
    ∃ s, steps[place]? = some s ∧ s.faults ≠ [] := by
  have hfilter := filter_violationsFrom 0 place steps
  rw [Nat.zero_add] at hfilter
  have hnil : (violations steps).filter (·.step == some place) = [] ↔
      violations (steps[place]?).toList = [] := by
    rw [violations, hfilter, List.map_eq_nil_iff]
  rw [List.filter_eq_nil_iff] at hnil
  simp only [beq_iff_eq] at hnil
  have hexists : (∃ x ∈ violations steps, x.step = some place) ↔
      violations (steps[place]?).toList ≠ [] := by
    rw [Ne, ← hnil]
    push Not
    rfl
  rw [hexists]
  cases steps[place]? with
  | none => simp [violations, violationsFrom]
  | some s => simp [violations_singleton_eq_nil_iff]

theorem Step.Written.unique {s s' : Step} (h : Written v s) (h' : Written v s') : s = s' :=
  Except.ok.inj ((ofJson_eq_ok_iff.2 h).symm.trans (ofJson_eq_ok_iff.2 h'))

namespace Plan

-- What is reported on an element that is no step.
def elementFault? (v : Json) (place : Nat) : Option Violation :=
  match Step.ofJson v with
  | .ok _ => none
  | .error e => some ⟨some place, .notStep e⟩

theorem faults_readFrom (first : Nat) (items : List Json) :
    (readFrom first items).2 =
      (items.zipIdx first).filterMap fun (v, i) => elementFault? v i := by
  induction items generalizing first with
  | nil => rfl
  | cons v rest ih =>
    rw [List.zipIdx_cons, List.filterMap_cons, ← ih (first + 1)]
    dsimp only
    unfold elementFault?
    cases hv : Step.ofJson v with
    | ok s => rw [readFrom_cons_of_ok hv]
    | error e => rw [readFrom_cons_of_error hv]

-- An element has a fault with its number where it is no way to write a step.
theorem exists_fault_iff : (∃ x ∈ (readFrom 0 items).2, x.step = some place) ↔
    ∃ v, items[place]? = some v ∧ ∀ s, ¬ Step.Written v s := by
  rw [faults_readFrom]
  constructor
  · rintro ⟨x, hx, hplace⟩
    obtain ⟨⟨v, i⟩, hv, hfault⟩ := List.mem_filterMap.1 hx
    dsimp only at hfault
    unfold elementFault? at hfault
    split at hfault
    · cases hfault
    · next e he =>
      cases hfault
      cases hplace
      exact ⟨v, List.mk_mem_zipIdx_iff_getElem?.1 hv, Step.exists_error_iff.1 ⟨e, he⟩⟩
  · rintro ⟨v, hv, hnone⟩
    obtain ⟨e, he⟩ := Step.exists_error_iff.2 hnone
    refine ⟨⟨some place, .notStep e⟩, ?_, rfl⟩
    refine List.mem_filterMap.2 ⟨(v, place), List.mk_mem_zipIdx_iff_getElem?.2 hv, ?_⟩
    simp only [elementFault?, he]

-- A document is rejected with a violation that has the number of an element.
def Reports (outcome : Except PlanError Plan) (place : Nat) : Prop :=
  ∃ vs, outcome = .error (.invalid vs) ∧ ∃ x ∈ vs, x.step = some place

-- An element that is rejected where it is the whole document.
def Rejects (v : Json) : Prop := ∃ e, ofJson (.arr [v]) = .error e

theorem reports_invalid_iff {vs : List Violation} :
    Reports (.error (.invalid vs)) place ↔ ∃ x ∈ vs, x.step = some place := by
  constructor
  · rintro ⟨_, hvs, hx⟩
    cases hvs
    exact hx
  · exact fun hx => ⟨vs, rfl, hx⟩

theorem reports_ofSteps_iff :
    Reports (ofSteps steps) place ↔ ∃ s, steps[place]? = some s ∧ s.faults ≠ [] := by
  by_cases hvalid : violations steps = []
  · rw [ofSteps_of_valid hvalid]
    constructor
    · rintro ⟨_, hvs, -⟩
      cases hvs
    · intro hs
      obtain ⟨x, hx, -⟩ := exists_violation_iff.2 hs
      rw [hvalid] at hx
      cases hx
  · rw [ofSteps_of_invalid hvalid, reports_invalid_iff, exists_violation_iff]

theorem ofJson_of_not_written (h : ¬ ∀ v ∈ items, ∃ s, Step.Written v s) :
    ofJson (.arr items) = .error (.invalid (readFrom 0 items).2) := by
  have hfaults : (readFrom 0 items).2 ≠ [] := by
    push Not at h
    obtain ⟨v, hv, hnone⟩ := h
    obtain ⟨i, hi⟩ := List.mem_iff_getElem?.1 hv
    obtain ⟨x, hx, -⟩ := exists_fault_iff.2 ⟨v, hi, hnone⟩
    exact List.ne_nil_of_mem hx
  cases hread : readFrom 0 items with
  | mk steps faults =>
    cases faults with
    | nil => exact absurd (congrArg Prod.snd hread) hfaults
    | cons x faults => simp only [ofJson, hread]

theorem rejects_iff : Rejects v ↔ ∀ s, Step.Written v s → s.faults ≠ [] := by
  by_cases hv : ∃ s, Step.Written v s
  · obtain ⟨s, hs⟩ := hv
    have hdocument : ofJson (.arr [v]) = ofSteps [s] := ofJson_of_written (.cons hs .nil)
    have honly : (∀ s', Step.Written v s' → s'.faults ≠ []) ↔ violations [s] ≠ [] := by
      rw [Ne, violations_singleton_eq_nil_iff]
      exact ⟨fun h => h s hs, fun h s' hs' => hs.unique hs' ▸ h⟩
    rw [Rejects, hdocument, honly]
    by_cases hvalid : violations [s] = []
    · simp [ofSteps_of_valid hvalid, hvalid]
    · simp [ofSteps_of_invalid hvalid, hvalid]
  · have hnot : ¬ ∀ u ∈ [v], ∃ s, Step.Written u s := fun h => hv (h v List.mem_cons_self)
    exact ⟨fun _ s hs => absurd ⟨s, hs⟩ hv, fun _ => ⟨_, ofJson_of_not_written hnot⟩⟩

-- An element that is no step is always reported. A step with faults is reported only in a document
-- of steps.
theorem reports_iff (h : items[place]? = some v) : Reports (ofJson (.arr items)) place ↔
    (∀ s, ¬ Step.Written v s) ∨ (∀ u ∈ items, ∃ s, Step.Written u s) ∧ Rejects v := by
  by_cases hwritten : ∀ u ∈ items, ∃ s, Step.Written u s
  · obtain ⟨steps, hsteps⟩ := exists_forall₂ hwritten
    obtain ⟨hplace, rfl⟩ := List.getElem?_eq_some_iff.1 h
    have hplace' : place < steps.length := hsteps.length_eq ▸ hplace
    have hs : Step.Written items[place] steps[place] := hsteps.get hplace hplace'
    rw [ofJson_of_written hsteps, reports_ofSteps_iff, rejects_iff,
      List.getElem?_eq_getElem hplace']
    constructor
    · rintro ⟨_, hsame, hfaults⟩
      cases hsame
      exact .inr ⟨hwritten, fun s' hs' => hs.unique hs' ▸ hfaults⟩
    · rintro (hnone | ⟨-, hfaults⟩)
      · exact absurd hs (hnone _)
      · exact ⟨_, rfl, hfaults _ hs⟩
  · rw [ofJson_of_not_written hwritten, reports_invalid_iff, exists_fault_iff]
    simp [h, hwritten]

-- What is reported on an element is a reason to reject it alone. The converse holds exactly where
-- each element is a step, or the one in question is not a step with faults: as long as some element
-- is no step, the constraints on the others go unchecked.
theorem reports_iff_rejects_iff (items : List Json) (place : Fin items.length) :
    (Reports (ofJson (.arr items)) place → Rejects items[place]) ∧
      ((Reports (ofJson (.arr items)) place ↔ Rejects items[place]) ↔
        (∀ u ∈ items, ∃ s, Step.Written u s) ∨
          ∀ s, Step.Written items[place] s → s.faults = []) := by
  have hget : items[(place : Nat)]? = some items[place] := List.getElem?_eq_getElem place.isLt
  rw [reports_iff hget]
  have hrejects : (∀ s, ¬ Step.Written items[place] s) ∨
      (∀ u ∈ items, ∃ s, Step.Written u s) ∧ Rejects items[place] → Rejects items[place] := by
    rintro (hnone | ⟨-, hrejects⟩)
    · exact rejects_iff.2 fun s hs => absurd hs (hnone s)
    · exact hrejects
  refine ⟨hrejects, fun hsame => ?_, ?_⟩
  · by_cases hwritten : ∀ u ∈ items, ∃ s, Step.Written u s
    · exact .inl hwritten
    · refine .inr fun s hs => ?_
      by_contra hfaults
      rcases hsame.2 (rejects_iff.2 fun s' hs' => hs.unique hs' ▸ hfaults) with hnone | ⟨hall, -⟩
      · exact hnone s hs
      · exact hwritten hall
  · rintro (hwritten | hfaults)
    · exact ⟨hrejects, fun hreject => .inr ⟨hwritten, hreject⟩⟩
    · exact ⟨hrejects, fun hreject => .inl fun s hs => rejects_iff.1 hreject s hs (hfaults s hs)⟩

def dropAction : Json :=
  .obj [("step", .str "store"), ("with", .str "Store"),
    ("args", .obj [("action", .str "drop"), ("key", .str "k")])]

-- Alone this element is rejected. After one that is no step it is not even mentioned.
theorem not_reports_dropAction :
    Rejects dropAction ∧ ¬ Reports (ofJson (.arr [.ofNat 42, dropAction])) 1 := by
  refine ⟨⟨.invalid [⟨some 0, .constraint (.unknownAction "drop")⟩], rfl⟩, ?_⟩
  rintro ⟨vs, hvs, x, hx, hplace⟩
  cases hvs
  cases List.mem_singleton.1 hx
  cases hplace

end Plan

end Stepwise
