import Stepwise.Proofs.Json.Text
import Stepwise.Proofs.Run.Boundary
import Stepwise.Proofs.Run.Session

namespace Stepwise

namespace Context

variable {c : Context} {before : List Json}

-- A context that callers can come to have, with the results that were there when the last run on it
-- began. Before any run there were none.
inductive Reached : Context → (before : List Json) → Prop
  | read {origin : Origin} {c : Context} (h : origin.read = .ok c) : Reached c []
  | note {c : Context} {before : List Json} (h : Reached c before) (name : String) (value : Json) :
    Reached (c.withMetadata name value) before
  | run {σ : Type} {c : Context} {before : List Json} (h : Reached c before) (executor : Executor σ)
    (token : Token σ) (plan : Plan) (world : σ) :
    Reached (executor.execute token plan c world).context c.trace

theorem earlier_execute {σ : Type} (executor : Executor σ) (token : Token σ) (plan : Plan)
    (c : Context) (world : σ) : (executor.execute token plan c world).context.earlier = c.trace := by
  rw [Executor.context_execute]
  exact Run.earlier_of_steps rfl

theorem Reached.earlier_eq (h : Reached c before) : c.earlier = before := by
  induction h with
  | read h => exact earlier_of_read h
  | note _ _ _ ih => exact ih
  | run => exact earlier_execute ..

theorem asDict_ofDict (d : Dict Json) : Json.asDict (.ofDict d) = .ok d := by
  rw [Json.ofDict, Json.asDict, Dict.ofList_entries]

-- The document of a context holds its frame and all its results, and not where the last run began.
theorem ofJson_toJson (c : Context) : ofJson c.toJson = .ok ⟨c.frame, [], c.trace⟩ := by
  have hmemory : (Json.asDict (.ofDict c.frame.memory)).map some = .ok (some c.frame.memory) := by
    rw [asDict_ofDict]
    rfl
  have hmetadata :
      (Json.asDict (.ofDict c.frame.metadata)).map some = .ok (some c.frame.metadata) := by
    rw [asDict_ofDict]
    rfl
  refine bind_eq_ok_iff.2 ⟨some c.frame.goal, rfl, ?_⟩
  refine bind_eq_ok_iff.2 ⟨some c.frame.memory, hmemory, ?_⟩
  exact bind_eq_ok_iff.2 ⟨some c.frame.metadata, hmetadata, rfl⟩

-- A context from the text of its document.
def readText (text : String) : Option Context :=
  (Json.read text).toOption.bind fun v => (ofJson v).toOption

-- All values of a context come back from their texts, inside the two brackets around each of them.
structure Legible (c : Context) : Prop where
  memory : ∀ m ∈ c.frame.memory.entries, m.2.Legible 125
  metadata : ∀ m ∈ c.frame.metadata.entries, m.2.Legible 125
  trace : ∀ v ∈ c.trace, v.Legible 125

theorem Legible.toJson (h : c.Legible) : c.toJson.Legible 127 := by
  have hnames : ["goal", "memory", "metadata", "trace"].Pairwise (· < ·) := by decide
  refine .obj (List.pairwise_map.1 hnames) fun m hm => ?_
  simp only [List.mem_cons, List.not_mem_nil, or_false] at hm
  obtain rfl | rfl | rfl | rfl := hm
  · exact .str _
  · exact .obj c.frame.memory.ascending h.memory
  · exact .obj c.frame.metadata.ascending h.metadata
  · exact .arr h.trace

theorem readText_compact (h : c.Legible) :
    readText c.toJson.compact = some ⟨c.frame, [], c.trace⟩ := by
  rw [readText, Json.read_compact h.toJson]
  simp only [Except.toOption, Option.bind_some, ofJson_toJson]

-- A context comes back from its document with all it holds, and its whole trace counts as one run.
-- So the results of its last run come back just when there were none before them. The text of the
-- document brings back the same, as far as the values come back from their texts.
theorem reload_exact (h : c.Reached before) :
    c.trace = before ++ c.runTrace ∧
    ∃ c', ofJson c.toJson = .ok c' ∧ c'.frame = c.frame ∧ c'.trace = c.trace ∧
      c'.runTrace = c.trace ∧ (c'.runTrace = c.runTrace ↔ before = []) ∧
      (c.Legible → readText c.toJson.compact = some c') := by
  have htrace : c.trace = before ++ c.runTrace := by
    rw [trace, h.earlier_eq, runTrace]
  refine ⟨htrace, ⟨c.frame, [], c.trace⟩, ofJson_toJson c, rfl, rfl, rfl, ?_, readText_compact⟩
  show c.trace = c.runTrace ↔ before = []
  rw [htrace, List.append_left_eq_self]

end Context

-- A plan that keeps a word.
def Plan.keepWord : Plan where
  steps := [⟨"keep", "Store", .ofList [("action", .str "write"), ("key", .str "word")]⟩]
  valid := by rfl

namespace Context

-- A context after the two runs of a plan.
def afterTwoRuns : Context :=
  ((Executor.builtin {} Network.closed .plain).session
    [(Token.never, Plan.keepWord), (Token.never, Plan.keepWord)] (.ofGoal "g") ⟨.empty, ()⟩).2.1

theorem reached_ofGoal (goal : String) : (ofGoal goal).Reached [] := by
  have hread : (Origin.goal goal).read = .ok (ofGoal goal) := rfl
  exact .read hread

theorem reached_afterTwoRuns : afterTwoRuns.Reached [.bool true] :=
  .run (.run (reached_ofGoal "g") (Executor.builtin {} Network.closed .plain) Token.never
    Plan.keepWord ⟨.empty, ()⟩) (Executor.builtin {} Network.closed .plain) Token.never
    Plan.keepWord _

-- The same context with a note of 19.99, which is read as it is written.
def priced : Context :=
  afterTwoRuns.withMetadata "price" (.num (.float ⟨false, 4626319902466574909, by decide⟩))

theorem legible_priced : priced.Legible where
  memory m hm := by
    have hnone : priced.frame.memory.entries = [] := rfl
    rw [hnone] at hm
    cases hm
  metadata m hm := by
    have hone : priced.frame.metadata.entries =
        [("price", .num (.float ⟨false, 4626319902466574909, by decide⟩))] := rfl
    rw [hone, List.mem_singleton] at hm
    subst hm
    exact .num (by decide +kernel)
  trace v hv := by
    have htwo : priced.trace = [.bool true, .bool true] := rfl
    rw [htwo] at hv
    obtain rfl : v = .bool true := by simpa using hv
    exact .bool true

theorem reload_exact_priced :
    priced.Reached [.bool true] ∧ priced.Legible ∧
      ∃ c', ofJson priced.toJson = .ok c' ∧ c'.runTrace = [.bool true, .bool true] ∧
        readText priced.toJson.compact = some c' := by
  have hreached : priced.Reached [.bool true] := .note reached_afterTwoRuns _ _
  obtain ⟨-, c', hread, -, -, hrun, -, htext⟩ := reload_exact hreached
  exact ⟨hreached, legible_priced, c', hread, hrun, htext legible_priced⟩

-- A context with a note of 1.3426503814917685, a double whose digits are read as its neighbour.
def noted : Context :=
  (ofGoal "g").withMetadata "x" (.num (.float ⟨false, 4608725578930422095, by decide⟩))

def notedUnits (c : Context) : Option Nat :=
  match c.frame.metadata.get? "x" with
  | some (.num (.float x)) => some x.magnitude
  | _ => none

-- The second run comes back with the results of the first in front of its own. And on the way through
-- a text a note may change.
theorem not_reloaded :
    (afterTwoRuns.Reached [.bool true] ∧
      ∀ c', ofJson afterTwoRuns.toJson = .ok c' → c'.runTrace ≠ afterTwoRuns.runTrace) ∧
    (noted.Reached [] ∧
      ∀ c', readText noted.toJson.compact = some c' → c'.frame.metadata ≠ noted.frame.metadata) := by
  refine ⟨⟨reached_afterTwoRuns, ?_⟩, .note (reached_ofGoal "g") _ _, ?_⟩
  · intro c' hread heq
    rw [ofJson_toJson] at hread
    cases hread
    cases heq
  · intro c' hread heq
    have hunits : (readText noted.toJson.compact).bind notedUnits = some 4608725578930422094 := by
      decide +kernel
    have hsame : notedUnits c' = notedUnits noted := by rw [notedUnits, heq, notedUnits]
    rw [hread, Option.bind_some, hsame] at hunits
    exact absurd hunits (by decide)

end Context

end Stepwise
