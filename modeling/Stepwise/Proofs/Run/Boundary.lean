import Stepwise.Proofs.Except
import Stepwise.Proofs.Run.Steps

namespace Stepwise.Context

open Json (Shaped)

-- Where a context comes from.
inductive Origin
  | goal (goal : String)
  | document (v : Json)

def Origin.read : Origin → Shaped Context
  | goal g => .ok (ofGoal g)
  | document v => ofJson v

-- What can happen to a context. Tools leave a frame, and a run records its results one by one.
inductive Event
  | note (name : String) (value : Json)
  | begin
  | leave (frame : Frame)
  | record (result : Json)

def Event.apply (c : Context) : Event → Context
  | note name value => c.withMetadata name value
  | begin => c.beginRun
  | leave frame => { c with frame }
  | record result => c.record result

def after (c : Context) (events : List Event) : Context := events.foldl Event.apply c

def Event.result? : Event → Option Json
  | record result => some result
  | _ => none

-- The results that are recorded, in order.
def recorded (events : List Event) : List Json := events.filterMap Event.result?

-- A context as one list of results, with a mark where those of the current run begin.
structure Marked where
  frame : Frame
  trace : List Json
  mark : Nat

namespace Marked

-- No document holds a mark, and a new context has no results.
def ofRead (c : Context) : Marked := ⟨c.frame, c.trace, 0⟩

def apply (m : Marked) : Event → Marked
  | .note name value => { m with frame.metadata := m.frame.metadata.insert name value }
  | .begin => { m with mark := m.trace.length }
  | .leave frame => { m with frame }
  | .record result => { m with trace := m.trace ++ [result] }

def after (m : Marked) (events : List Event) : Marked := events.foldl apply m

-- The results from the mark on. There are none to be had from behind the end.
def runTrace? (m : Marked) : Option (List Json) :=
  if m.mark ≤ m.trace.length then some (m.trace.drop m.mark) else none

end Marked

-- The mark stands behind the results of earlier runs.
def marked (c : Context) : Marked := ⟨c.frame, c.trace, c.earlier.length⟩

variable {c : Context} {origin : Origin} {event : Event} {events since : List Event}

theorem after_append (c : Context) (events since : List Event) :
    c.after (events ++ since) = (c.after events).after since := List.foldl_append

section Marked

theorem marked_apply (c : Context) (event : Event) :
    (event.apply c).marked = c.marked.apply event := by
  cases event with
  | note name value => rfl
  | begin => simp [Event.apply, marked, Marked.apply, beginRun, trace]
  | leave frame => rfl
  | record result => simp [Event.apply, marked, Marked.apply, record, trace]

-- Both ways to keep the results go through the same events alike.
theorem marked_after (c : Context) (events : List Event) :
    (c.after events).marked = c.marked.after events := by
  induction events generalizing c with
  | nil => rfl
  | cons event events ih =>
    rw [after, List.foldl_cons, ← after, ih, marked_apply]
    rfl

theorem mark_le_length (c : Context) : c.marked.mark ≤ c.marked.trace.length := by
  simp [marked, trace]

theorem runTrace?_marked (c : Context) : c.marked.runTrace? = some c.runTrace := by
  rw [Marked.runTrace?, if_pos c.mark_le_length]
  simp [marked, trace, runTrace]

end Marked

section Read

variable {items : List Json} {members : List (String × Json)}

-- A context that is read has had no run yet, so all its results count as those of one.

theorem earlier_of_ofMembers (h : ofMembers members = .ok c) : c.earlier = [] := by
  obtain ⟨goal, -, h⟩ := bind_eq_ok_iff.1 h
  obtain ⟨memory, -, h⟩ := bind_eq_ok_iff.1 h
  obtain ⟨metadata, -, h⟩ := bind_eq_ok_iff.1 h
  obtain ⟨trace, -, h⟩ := bind_eq_ok_iff.1 h
  obtain ⟨goal, -, h⟩ := bind_eq_ok_iff.1 h
  cases h
  rfl

theorem earlier_of_ofItems (h : ofItems items = .ok c) : c.earlier = [] := by
  cases items with
  | nil => cases h
  | cons goal rest =>
    obtain ⟨goal, -, h⟩ := bind_eq_ok_iff.1 h
    obtain ⟨memory, -, h⟩ := bind_eq_ok_iff.1 h
    obtain ⟨metadata, -, h⟩ := bind_eq_ok_iff.1 h
    obtain ⟨trace, -, h⟩ := bind_eq_ok_iff.1 h
    split at h
    · cases h
      rfl
    · cases h

theorem earlier_of_read (h : origin.read = .ok c) : c.earlier = [] := by
  cases origin with
  | goal g =>
    cases h
    rfl
  | document v =>
    cases v with
    | obj members => exact earlier_of_ofMembers h
    | arr items => exact earlier_of_ofItems h
    | _ => cases h

theorem marked_of_read (h : origin.read = .ok c) : c.marked = .ofRead c := by
  rw [marked, earlier_of_read h]
  rfl

end Read

section Results

-- Only a beginning moves results to the earlier ones.

theorem earlier_after (h : .begin ∉ events) : (c.after events).earlier = c.earlier := by
  induction events generalizing c with
  | nil => rfl
  | cons event events ih =>
    rw [List.mem_cons, not_or] at h
    have hfirst : (event.apply c).earlier = c.earlier := by
      cases event with
      | begin => exact absurd rfl h.1
      | _ => rfl
    exact (ih h.2).trans hfirst

theorem trace_apply (c : Context) (event : Event) :
    (event.apply c).trace = c.trace ++ event.result?.toList := by
  cases event with
  | note name value => exact (List.append_nil _).symm
  | begin => rfl
  | leave frame => exact (List.append_nil _).symm
  | record result => exact (List.append_assoc ..).symm

theorem trace_after (c : Context) (events : List Event) :
    (c.after events).trace = c.trace ++ recorded events := by
  induction events generalizing c with
  | nil => exact (List.append_nil _).symm
  | cons event events ih =>
    rw [after, List.foldl_cons, ← after, ih, trace_apply, List.append_assoc, recorded, recorded,
      List.filterMap_cons]
    cases event.result? <;> rfl

-- Results come behind those of earlier runs, so what is recorded in a run is its trace.
theorem runTrace_after (h : .begin ∉ since) : (c.after since).runTrace = c.runTrace ++ recorded since := by
  have htrace := trace_after c since
  rw [trace, earlier_after h, trace, List.append_assoc] at htrace
  exact List.append_cancel_left htrace

theorem runTrace_after_begin (h : .begin ∉ since) :
    (c.after (events ++ .begin :: since)).runTrace = recorded since := by
  rw [after_append]
  exact runTrace_after h

end Results

end Stepwise.Context

namespace Stepwise

variable {σ : Type}

section Run

open Context (Event recorded)

variable {registry : Registry (Tool σ)} {token : Token σ} {place : Nat} {s : Step}
  {context : Context} {world : σ}

-- What a step does to its context is one of a few lists of events.
theorem Run.Transition.exists_after {result : Except RunError Unit} {after : Context} {left : σ}
    {calls : List Call}
    (h : Transition registry token place s context world result after left calls) :
    ∃ events, .begin ∉ events ∧ after = context.after events := by
  cases h with
  | cancelled | unknown | unresolved => exact ⟨[], by simp, rfl⟩
  | @failed _ _ _ frame => exact ⟨[.leave frame], by simp, rfl⟩
  | @completed _ _ v frame => exact ⟨[.leave frame, .record v], by simp, rfl⟩

theorem Run.exists_after_steps (registry : Registry (Tool σ)) (token : Token σ) (place : Nat)
    (steps : List Step) (context : Context) (world : σ) :
    ∃ events, .begin ∉ events ∧
      (Run.steps registry token place steps context world).2.1 = context.after events := by
  induction steps generalizing place context world with
  | nil => exact ⟨[], by simp, rfl⟩
  | cons s rest ih =>
    obtain ⟨first, hfirst, hafter⟩ : ∃ events, .begin ∉ events ∧
        (Run.step registry token place s context world).2.1 = context.after events := by
      rcases hstep : Run.step registry token place s context world with ⟨result, after, left⟩
      obtain ⟨calls, htransition⟩ := transition_of_step hstep
      exact htransition.exists_after
    rw [Run.steps]
    split
    · next hstep => exact ⟨first, hfirst, by rw [← hafter, hstep]⟩
    · next next reached hstep =>
      obtain ⟨events, hevents, hrest⟩ := ih (place + 1) next reached
      rw [hstep] at hafter
      refine ⟨first ++ events, by simp [hfirst, hevents], ?_⟩
      rw [hrest, Context.after_append, ← hafter]

end Run

namespace Context

variable {c : Context} {origin : Origin}

-- Whatever has happened to a context since it was made or read, its mark lies inside the trace, and
-- the results from there on are those recorded since the last run began. Runs of a plan are such
-- events, up to every step.
theorem boundary_within (h : origin.read = .ok c) (events : List Event) :
    ((Marked.ofRead c).after events).mark ≤ ((Marked.ofRead c).after events).trace.length ∧
    ((Marked.ofRead c).after events).trace = c.trace ++ recorded events ∧
    (c.after events).marked = (Marked.ofRead c).after events ∧
    ((Marked.ofRead c).after events).runTrace? = some (c.after events).runTrace ∧
    (∀ before since, events = before ++ .begin :: since → .begin ∉ since →
      (c.after events).runTrace = recorded since) ∧
    (.begin ∉ events → (c.after events).runTrace = (c.after events).trace) ∧
    ∀ {σ : Type} (executor : Executor σ) token (plan : Plan) world,
      (∃ since, .begin ∉ since ∧ (executor.execute token plan (c.after events) world).context =
        c.after (events ++ .begin :: since)) ∧
      ∀ place steps, ∃ since, .begin ∉ since ∧
        (Run.steps executor.registry token place steps (c.after events) world).2.1 =
          c.after (events ++ since) := by
  have hmarked : (c.after events).marked = (Marked.ofRead c).after events := by
    rw [marked_after, marked_of_read h]
  rw [← hmarked]
  refine ⟨mark_le_length _, trace_after c events, rfl, runTrace?_marked _, ?_, ?_, ?_⟩
  · rintro before since rfl hsince
    exact runTrace_after_begin hsince
  · intro hevents
    rw [trace, earlier_after hevents, earlier_of_read h]
    rfl
  · intro σ executor token plan world
    refine ⟨?_, fun place steps => ?_⟩
    · obtain ⟨since, hsince, hafter⟩ := Run.exists_after_steps executor.registry token 0 plan.steps
        (c.after events).beginRun world
      refine ⟨since, hsince, ?_⟩
      rw [Executor.context_execute, hafter, after_append]
      rfl
    · obtain ⟨since, hsince, hafter⟩ := Run.exists_after_steps executor.registry token place steps
        (c.after events) world
      exact ⟨since, hsince, by rw [hafter, after_append]⟩

-- A document with two results and no mark, and what a run and a record outside of it add.
def twoResults : Json :=
  .obj [("goal", .str "g"), ("trace", .arr [.bool true, .null])]

theorem boundary_within_twoResults :
    ∃ c, (Origin.document twoResults).read = .ok c ∧
      ((Marked.ofRead c).after [.record .null, .begin, .note "user" .null, .record (.str "x")]).mark =
        3 ∧
      ((Marked.ofRead c).after
        [.record .null, .begin, .note "user" .null, .record (.str "x")]).runTrace? =
          some [.str "x"] := by
  obtain ⟨c, hread⟩ : ∃ c, (Origin.document twoResults).read = .ok c := ⟨_, rfl⟩
  obtain ⟨-, -, -, hslice, hsince, -⟩ := boundary_within hread
    [.record .null, .begin, .note "user" .null, .record (.str "x")]
  rw [hsince [.record .null] [.note "user" .null, .record (.str "x")] rfl (by simp)] at hslice
  refine ⟨c, hread, ?_, hslice⟩
  cases hread
  rfl

end Context

end Stepwise
