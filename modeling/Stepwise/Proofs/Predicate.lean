import Stepwise.Predicate.Document

namespace Stepwise

namespace Comparison

theorem ofName?_name (op : Comparison) : ofName? op.name = some op := by
  cases op <;> decide

theorem ofJson_toJson (op : Comparison) : ofJson op.toJson = .ok op := by
  rw [toJson, ofJson, ofJson.known, ofName?_name]

end Comparison

namespace Predicate

theorem readPresent_field (field : String) :
    readPresent (.obj [("field", .str field)]) = .ok (present field) := rfl

-- The members of a comparison are told apart by their names, so the constant may be anything, a
-- missing value or the document of a predicate too.
theorem readCompare_members (field : String) (op : Comparison) (value : Json) :
    readCompare (.obj [("field", .str field), ("op", op.toJson), ("value", value)]) =
      .ok (compare field op value) := by
  have hop : Json.optionalField [("field", .str field), ("op", op.toJson), ("value", value)] "op"
      Comparison.ofJson = .ok (some op) := by
    have hfield : Json.field? [("field", .str field), ("op", op.toJson), ("value", value)] "op" =
        some op.toJson := rfl
    rw [Json.optionalField, hfield]
    dsimp only
    rw [op.ofJson_toJson]
    rfl
  rw [readCompare, hop]
  rfl

mutual

-- Induction on the predicate, together with the lists of its parts.
theorem ofJson_toJson (p : Predicate) : ofJson p.toJson = .ok p := by
  cases p with
  | all parts => simp [toJson, ofJson, ofJsonArray, ofJsonList_toJsonList parts, Except.map]
  | any parts => simp [toJson, ofJson, ofJsonArray, ofJsonList_toJsonList parts, Except.map]
  | negate part => simp [toJson, ofJson, ofJson_toJson part, Except.map]
  | present field => simp [toJson, ofJson, readPresent_field]
  | compare field op value => simp [toJson, ofJson, readCompare_members]

theorem ofJsonList_toJsonList (parts : List Predicate) :
    ofJsonList (toJsonList parts) = .ok parts := by
  cases parts with
  | nil => rfl
  | cons p rest =>
    simp [toJsonList, ofJsonList, ofJson_toJson p, ofJsonList_toJsonList rest, Except.map]

end

-- A predicate is read back from its document. So is the predicate of any other document that is
-- read as one, however it is written there.
theorem document_faithful :
    (∀ p : Predicate, ofJson p.toJson = .ok p) ∧
      ∀ v : Json, (ofJson v).bind (fun p => ofJson p.toJson) = ofJson v := by
  refine ⟨ofJson_toJson, fun v => ?_⟩
  cases ofJson v with
  | error e => rfl
  | ok p => exact ofJson_toJson p

end Predicate

end Stepwise
