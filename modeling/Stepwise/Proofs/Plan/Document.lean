import Mathlib.Data.List.Forall2
import Stepwise.Proofs.Dict
import Stepwise.Proofs.Except
import Stepwise.Proofs.Plan.Validation

namespace Stepwise

namespace Json

variable {α : Type} {v : Json} {members : List (String × Json)} {name t : String} {d : Dict Json}
  {read : Json → Shaped α} {a : α}

theorem asText_eq_ok_iff : v.asText = .ok t ↔ v = .str t := by
  cases v <;> simp [asText, mismatch]

theorem asDict_eq_ok_iff : v.asDict = .ok d ↔ ∃ es, v = .obj es ∧ d = .ofList es := by
  cases v <;> simp [asDict, mismatch, eq_comm]

theorem required_eq_ok_iff {r : Option α} : required name r = .ok a ↔ r = some a := by
  cases r <;> simp [required]

theorem optionalField_eq_some_iff :
    optionalField members name read = .ok (some a) ↔
      ∃ v, field? members name = some v ∧ read v = .ok a := by
  unfold optionalField
  cases field? members name with
  | none => simp
  | some v => simp [map_eq_ok_iff]

-- A member that may be left out, and what stands for it then.
theorem optionalField_getD_iff (default : α) :
    (∃ r, optionalField members name read = .ok r ∧ r.getD default = a) ↔
      (field? members name = none ∧ a = default) ∨
        ∃ v, field? members name = some v ∧ read v = .ok a := by
  unfold optionalField
  cases field? members name with
  | none => simp [eq_comm]
  | some v =>
    dsimp only
    cases hread : read v <;> simp [Except.map, hread]

end Json

namespace Step

-- The ways to write a step. An object has to name the tool only, and may have other members besides;
-- a list holds the parts in their order, the last of which may be left out.
inductive Written : Json → Step → Prop
  | members {ms : List (String × Json)} {s : Step}
    (htool : Json.field? ms "with" = some (.str s.tool))
    (hlabel : (Json.field? ms "step" = none ∧ s.label = "") ∨
      Json.field? ms "step" = some (.str s.label))
    (hargs : (Json.field? ms "args" = none ∧ s.args = .empty) ∨
      ∃ es, Json.field? ms "args" = some (.obj es) ∧ s.args = .ofList es) :
    Written (.obj ms) s
  | pair (label tool : String) : Written (.arr [.str label, .str tool]) ⟨label, tool, .empty⟩
  | triple (label tool : String) (es : List (String × Json)) :
    Written (.arr [.str label, .str tool, .obj es]) ⟨label, tool, .ofList es⟩

variable {v : Json} {s : Step}

theorem ofMembers_eq_ok_iff {ms : List (String × Json)} :
    ofMembers ms = .ok s ↔ Written (.obj ms) s := by
  simp only [ofMembers, bind_eq_ok_iff, Json.required_eq_ok_iff]
  constructor
  · rintro ⟨args, hargs, label, hlabel, _, htool, tool, rfl, hs⟩
    cases hs
    obtain ⟨v, hget, htext⟩ := Json.optionalField_eq_some_iff.1 htool
    cases Json.asText_eq_ok_iff.1 htext
    refine .members hget ?_ ?_
    · rcases (Json.optionalField_getD_iff "").1 ⟨label, hlabel, rfl⟩ with hnone | ⟨v, hv, htext⟩
      · exact .inl hnone
      · rw [Json.asText_eq_ok_iff.1 htext] at hv
        exact .inr hv
    · rcases (Json.optionalField_getD_iff .empty).1 ⟨args, hargs, rfl⟩ with hnone | ⟨v, hv, hdict⟩
      · exact .inl hnone
      · obtain ⟨es, rfl, hes⟩ := Json.asDict_eq_ok_iff.1 hdict
        exact .inr ⟨es, hv, hes⟩
  · intro h
    cases h with
    | members htool hlabel hargs =>
      have htool' : Json.optionalField ms "with" Json.asText = .ok (some s.tool) :=
        Json.optionalField_eq_some_iff.2 ⟨_, htool, rfl⟩
      have hlabel' : ∃ r, Json.optionalField ms "step" Json.asText = .ok r ∧ r.getD "" = s.label :=
        (Json.optionalField_getD_iff "").2 (hlabel.imp_right fun hget => ⟨_, hget, rfl⟩)
      have hargs' : ∃ r, Json.optionalField ms "args" Json.asDict = .ok r ∧
          r.getD Dict.empty = s.args :=
        (Json.optionalField_getD_iff Dict.empty).2 (hargs.imp_right fun ⟨es, hget, hes⟩ =>
          ⟨_, hget, Json.asDict_eq_ok_iff.2 ⟨es, rfl, hes⟩⟩)
      obtain ⟨label, hlabel, hlabelD⟩ := hlabel'
      obtain ⟨args, hargs, hargsD⟩ := hargs'
      refine ⟨args, hargs, label, hlabel, _, htool', s.tool, rfl, ?_⟩
      rw [hlabelD, hargsD]
      rfl

theorem ofItems_eq_ok_iff {items : List Json} : ofItems items = .ok s ↔ Written (.arr items) s := by
  constructor
  · intro h
    match items with
    | [] => cases h
    | [label] =>
      obtain ⟨_, _, h⟩ := bind_eq_ok_iff.1 h
      cases h
    | [label, tool] =>
      obtain ⟨label, hlabel, h⟩ := bind_eq_ok_iff.1 h
      obtain ⟨tool, htool, h⟩ := bind_eq_ok_iff.1 h
      cases Json.asText_eq_ok_iff.1 hlabel
      cases Json.asText_eq_ok_iff.1 htool
      cases h
      exact .pair label tool
    | label :: tool :: args :: more =>
      obtain ⟨label, hlabel, h⟩ := bind_eq_ok_iff.1 h
      obtain ⟨tool, htool, h⟩ := bind_eq_ok_iff.1 h
      obtain ⟨args, hargs, h⟩ := bind_eq_ok_iff.1 h
      cases Json.asText_eq_ok_iff.1 hlabel
      cases Json.asText_eq_ok_iff.1 htool
      obtain ⟨es, rfl, rfl⟩ := Json.asDict_eq_ok_iff.1 hargs
      split at h
      · next hmore =>
        cases List.isEmpty_iff.1 hmore
        cases h
        exact .triple label tool es
      · cases h
  · intro h
    cases h <;> rfl

theorem ofJson_eq_ok_iff : ofJson v = .ok s ↔ Written v s := by
  cases v with
  | obj ms => exact ofMembers_eq_ok_iff
  | arr items => exact ofItems_eq_ok_iff
  | _ =>
    constructor
    · intro h
      cases h
    · intro h
      cases h

-- What is written for a step is one of the ways to write it.
theorem written_toJson (s : Step) : Written s.toJson s :=
  .members rfl (.inr rfl)
    (.inr ⟨s.args.entries, rfl, Dict.ext (Dict.entries_ofList s.args.ascending).symm⟩)

end Step

namespace Plan

theorem readFrom_cons_of_ok {place : Nat} {v : Json} {rest : List Json} {s : Step}
    (h : Step.ofJson v = .ok s) :
    readFrom place (v :: rest) =
      (s :: (readFrom (place + 1) rest).1, (readFrom (place + 1) rest).2) := by
  simp only [readFrom, h]

theorem readFrom_cons_of_error {place : Nat} {v : Json} {rest : List Json} {e : Json.ShapeFault}
    (h : Step.ofJson v = .error e) :
    readFrom place (v :: rest) =
      ((readFrom (place + 1) rest).1,
        ⟨some place, .notStep e⟩ :: (readFrom (place + 1) rest).2) := by
  simp only [readFrom, h]

-- No fault is found exactly where each element is a way to write its step.
theorem readFrom_eq_iff {place : Nat} {items : List Json} {steps : List Step} :
    readFrom place items = (steps, []) ↔ List.Forall₂ Step.Written items steps := by
  induction items generalizing place steps with
  | nil => simp [readFrom, eq_comm]
  | cons v rest ih =>
    cases hv : Step.ofJson v with
    | error e =>
      rw [readFrom_cons_of_error hv]
      constructor
      · intro h
        cases congrArg Prod.snd h
      · intro h
        cases h with
        | cons hs _ =>
          rw [Step.ofJson_eq_ok_iff.2 hs] at hv
          cases hv
    | ok s =>
      rw [readFrom_cons_of_ok hv]
      constructor
      · intro h
        obtain ⟨rfl, hfaults⟩ := Prod.mk.injEq .. ▸ h
        have hrest : readFrom (place + 1) rest = ((readFrom (place + 1) rest).1, []) :=
          Prod.ext rfl hfaults
        exact .cons (Step.ofJson_eq_ok_iff.1 hv) (ih.1 hrest)
      · intro h
        cases h with
        | cons hs hrest =>
          rw [Step.ofJson_eq_ok_iff.2 hs] at hv
          cases hv
          rw [ih.2 hrest]

theorem ofJson_of_written {items : List Json} {steps : List Step}
    (h : List.Forall₂ Step.Written items steps) : ofJson (.arr items) = ofSteps steps := by
  simp only [ofJson, readFrom_eq_iff.2 h]

theorem exists_of_ofJson_ok {document : Json} {plan : Plan} (h : ofJson document = .ok plan) :
    ∃ items, document = .arr items ∧ List.Forall₂ Step.Written items plan.steps := by
  unfold ofJson at h
  split at h
  · next items =>
    split at h
    · next steps hread =>
      rw [steps_of_ofSteps h]
      exact ⟨items, rfl, readFrom_eq_iff.1 hread⟩
    · cases h
  · cases h

theorem forall₂_written_toJson (steps : List Step) :
    List.Forall₂ Step.Written (steps.map Step.toJson) steps := by
  rw [List.forall₂_map_left_iff]
  exact List.forall₂_same.2 fun s _ => s.written_toJson

-- Steps come to the same plan, or to the same faults in the same order, whether they are given as
-- they are or written down, in whatever way. So a plan is read back from its document, and what a
-- document says is what is written for the plan that it gives.
theorem ofJson_faithful :
    (∀ steps, ofJson (.arr (steps.map Step.toJson)) = ofSteps steps) ∧
    (∀ plan : Plan, ofJson plan.toJson = .ok plan) ∧
    (∀ items steps, List.Forall₂ Step.Written items steps → ofJson (.arr items) = ofSteps steps) ∧
    ∀ document plan, ofJson document = .ok plan →
      (∃ items, document = .arr items ∧ List.Forall₂ Step.Written items plan.steps) ∧
        ofJson plan.toJson = .ok plan := by
  have hsteps (steps : List Step) : ofJson (.arr (steps.map Step.toJson)) = ofSteps steps :=
    ofJson_of_written (forall₂_written_toJson steps)
  have hplan (plan : Plan) : ofJson plan.toJson = .ok plan :=
    (hsteps plan.steps).trans plan.ofSteps_steps
  exact ⟨hsteps, hplan, fun _ _ => ofJson_of_written,
    fun _ plan h => ⟨exists_of_ofJson_ok h, hplan plan⟩⟩

def readTwo : Plan where
  steps :=
    [⟨"first", "Store", .ofList [("action", .str "read"), ("key", .str "a")]⟩,
     ⟨"", "Store", .ofList [("action", .str "read"), ("key", .str "b")]⟩]
  valid := by decide

-- Its steps written as a list, and as an object without a label and with a member of another name.
def readTwoItems : List Json :=
  [.arr [.str "first", .str "Store", .obj [("action", .str "read"), ("key", .str "a")]],
   .obj [("args", .obj [("action", .str "read"), ("key", .str "b")]), ("note", .null),
     ("with", .str "Store")]]

theorem ofJson_faithful_readTwo :
    List.Forall₂ Step.Written readTwoItems readTwo.steps ∧
      ofJson (.arr readTwoItems) = .ok readTwo ∧ ofJson readTwo.toJson = .ok readTwo := by
  have hwritten : List.Forall₂ Step.Written readTwoItems readTwo.steps :=
    .cons (.triple ..) (.cons (.members rfl (.inl ⟨rfl, rfl⟩) (.inr ⟨_, rfl, rfl⟩)) .nil)
  have hread : ofJson (.arr readTwoItems) = .ok readTwo :=
    (ofJson_faithful.2.2.1 _ _ hwritten).trans readTwo.ofSteps_steps
  exact ⟨hwritten, hread, (ofJson_faithful.2.2.2 _ _ hread).2⟩

end Plan

end Stepwise
