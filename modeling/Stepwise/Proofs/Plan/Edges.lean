import Mathlib.Data.List.Sort
import Stepwise.Proofs.Plan.Layers

namespace Stepwise

namespace Step

-- The pointers of a step, in the order in which they are collected.
def pointers (s : Step) : List Pointer := s.argPointers.map Prod.snd ++ s.inputPointers

theorem targets_eq (s : Step) : s.targets = s.pointers.map Pointer.step := by
  rw [targets, pointers, List.map_append, List.map_map]
  rfl

-- An entry for each pointer that leads to no step before the one at `place`.
def loose (place : Nat) (s : Step) : List (Nat × Nat) :=
  (s.pointers.filter (place ≤ ·.step)).map fun p => (place, p.step)

theorem loose_eq (place : Nat) (s : Step) :
    s.loose place = (s.targets.filter (place ≤ ·)).map fun target => (place, target) := by
  rw [loose, targets_eq, List.filter_map, List.map_map]
  rfl

end Step

-- The edges between steps as they are found, pointer by pointer: from the step that is read to the
-- one that reads it. A pointer that leads to no earlier step stands apart.
structure Edges where
  size : Nat
  pairs : List (Nat × Nat)
  dangling : List (Nat × Nat)

namespace Edges

-- Two steps are joined once, however many pointers lead from one to the other.
def add (place : Nat) (e : Edges) (target : Nat) : Edges :=
  if target < place then
    if (target, place) ∈ e.pairs then e else { e with pairs := e.pairs ++ [(target, place)] }
  else { e with dangling := e.dangling ++ [(place, target)] }

def addStep (e : Edges) (s : Step × Nat) : Edges := s.1.targets.foldl (add s.2) e

def ofSteps (steps : List Step) : Edges := steps.zipIdx.foldl addStep ⟨steps.length, [], []⟩

-- The other ends of the edges that end at a step, sorted when they are asked for.
def neighbors (e : Edges) (near far : Nat × Nat → Nat) (step : Nat) : List Nat :=
  if e.size ≤ step then []
  else ((e.pairs.filter fun pair => near pair = step).map far).mergeSort (· ≤ ·)

def dependencies (e : Edges) : Nat → List Nat := e.neighbors Prod.snd Prod.fst

def dependents (e : Edges) : Nat → List Nat := e.neighbors Prod.fst Prod.snd

variable {e : Edges} {place target step : Nat} {targets : List Nat} {pair : Nat × Nat}
  {places : List (Step × Nat)}

section Build

theorem size_add : (e.add place target).size = e.size := by
  unfold add
  split
  · split <;> rfl
  · rfl

theorem mem_pairs_add :
    pair ∈ (e.add place target).pairs ↔
      pair ∈ e.pairs ∨ target < place ∧ pair = (target, place) := by
  unfold add
  split
  · next hlt =>
    split
    · next hmem =>
      constructor
      · exact .inl
      · rintro (h | ⟨-, rfl⟩)
        · exact h
        · exact hmem
    · simp [hlt]
  · next hlt => simp [hlt]

theorem nodup_add (h : e.pairs.Nodup) : (e.add place target).pairs.Nodup := by
  unfold add
  split
  · split
    · exact h
    · next hmem => simpa using List.Nodup.concat hmem h
  · exact h

theorem dangling_add :
    (e.add place target).dangling =
      e.dangling ++ if place ≤ target then [(place, target)] else [] := by
  unfold add
  split
  · next hlt =>
    rw [if_neg (Nat.not_le.2 hlt)]
    split <;> simp
  · next hlt => rw [if_pos (Nat.not_lt.1 hlt)]

-- What the pointers of one step add.

theorem size_foldl_add : (targets.foldl (add place) e).size = e.size := by
  induction targets generalizing e with
  | nil => rfl
  | cons target targets ih => rw [List.foldl_cons, ih, size_add]

theorem mem_pairs_foldl_add :
    pair ∈ (targets.foldl (add place) e).pairs ↔
      pair ∈ e.pairs ∨ pair.2 = place ∧ pair.1 ∈ Dependencies.earlier place targets := by
  rw [Dependencies.mem_earlier]
  induction targets generalizing e with
  | nil => simp
  | cons target targets ih =>
    rw [List.foldl_cons, ih, mem_pairs_add, List.mem_cons, or_assoc]
    obtain ⟨a, b⟩ := pair
    simp only [Prod.mk.injEq]
    refine or_congr_right ?_
    constructor
    · rintro (⟨hlt, rfl, rfl⟩ | ⟨hb, hlt, hmem⟩)
      · exact ⟨rfl, hlt, .inl rfl⟩
      · exact ⟨hb, hlt, .inr hmem⟩
    · rintro ⟨hb, hlt, rfl | hmem⟩
      · exact .inl ⟨hlt, rfl, hb⟩
      · exact .inr ⟨hb, hlt, hmem⟩

theorem nodup_foldl_add (h : e.pairs.Nodup) : (targets.foldl (add place) e).pairs.Nodup := by
  induction targets generalizing e with
  | nil => exact h
  | cons target targets ih => exact ih (nodup_add h)

theorem dangling_foldl_add :
    (targets.foldl (add place) e).dangling =
      e.dangling ++ (targets.filter (place ≤ ·)).map fun target => (place, target) := by
  induction targets generalizing e with
  | nil => simp
  | cons target targets ih =>
    rw [List.foldl_cons, ih, dangling_add, List.append_assoc, List.filter_cons]
    by_cases hle : place ≤ target <;> simp [hle]

-- What all steps add.

theorem size_foldl_addStep : (places.foldl addStep e).size = e.size := by
  induction places generalizing e with
  | nil => rfl
  | cons s places ih => rw [List.foldl_cons, ih, addStep, size_foldl_add]

theorem mem_pairs_foldl_addStep :
    pair ∈ (places.foldl addStep e).pairs ↔
      pair ∈ e.pairs ∨
        ∃ s, (s, pair.2) ∈ places ∧ pair.1 ∈ Dependencies.earlier pair.2 s.targets := by
  induction places generalizing e with
  | nil => simp
  | cons s places ih =>
    rw [List.foldl_cons, ih, addStep, mem_pairs_foldl_add, or_assoc]
    refine or_congr_right ?_
    obtain ⟨s, place⟩ := s
    obtain ⟨a, b⟩ := pair
    simp only [List.mem_cons, Prod.mk.injEq]
    constructor
    · rintro (⟨rfl, hmem⟩ | ⟨s', hs', hmem⟩)
      · exact ⟨s, .inl ⟨rfl, rfl⟩, hmem⟩
      · exact ⟨s', .inr hs', hmem⟩
    · rintro ⟨s', ⟨rfl, rfl⟩ | hs', hmem⟩
      · exact .inl ⟨rfl, hmem⟩
      · exact .inr ⟨s', hs', hmem⟩

theorem nodup_foldl_addStep (h : e.pairs.Nodup) : (places.foldl addStep e).pairs.Nodup := by
  induction places generalizing e with
  | nil => exact h
  | cons s places ih => exact ih (nodup_foldl_add h)

theorem dangling_foldl_addStep :
    (places.foldl addStep e).dangling = e.dangling ++ places.flatMap fun s => s.1.loose s.2 := by
  induction places generalizing e with
  | nil => simp
  | cons s places ih =>
    rw [List.foldl_cons, ih, addStep, dangling_foldl_add, List.append_assoc, List.flatMap_cons,
      Step.loose_eq]

end Build

section Read

-- Sorting numbers that are all different gives the one ascending list of them.
theorem mergeSort_eq {l l' : List Nat} (hl : l.Nodup) (hl' : l'.Pairwise (· < ·))
    (h : ∀ a, a ∈ l ↔ a ∈ l') : l.mergeSort (· ≤ ·) = l' := by
  have hsorted : (l.mergeSort (· ≤ ·)).SortedLT :=
    List.sortedLE_mergeSort.sortedLT_of_nodup (List.nodup_mergeSort.2 hl)
  apply hsorted.eq_of_mem_iff hl'.sortedLT
  intro a
  rw [(List.mergeSort_perm l _).mem_iff, h]

-- An edge is known by its two ends, so no neighbor is met twice.
theorem neighbors_eq {near far : Nat × Nat → Nat} {l : List Nat} (hpairs : e.pairs.Nodup)
    (hends : ∀ p q, near p = near q → far p = far q → p = q) (hl : l.Pairwise (· < ·))
    (hsize : e.size ≤ step → l = [])
    (hmem : ∀ a, a ∈ l ↔ ∃ p ∈ e.pairs, near p = step ∧ far p = a) :
    e.neighbors near far step = l := by
  unfold neighbors
  split
  · next hle => exact (hsize hle).symm
  · apply mergeSort_eq
    · apply List.Nodup.map_on _ (hpairs.filter _)
      intro p hp q hq hfar
      have hp' : near p = step := of_decide_eq_true (List.mem_filter.1 hp).2
      have hq' : near q = step := of_decide_eq_true (List.mem_filter.1 hq).2
      exact hends p q (hp'.trans hq'.symm) hfar
    · exact hl
    · intro a
      simp only [List.mem_map, List.mem_filter, decide_eq_true_eq, hmem, and_assoc]

end Read

end Edges

namespace Dependencies

variable {steps : List Step} {d : Dependencies} {s : Step} {entry : Nat × Nat} {a b i place : Nat}

theorem mem_dependencies_ofSteps :
    a ∈ (ofSteps steps).dependencies b ↔ ∃ s, steps[b]? = some s ∧ a ∈ earlier b s.targets := by
  cases hget : steps[b]? with
  | none => simp [dependencies, ofSteps, List.getElem?_zipIdx, hget]
  | some s => simp [dependencies, ofSteps, List.getElem?_zipIdx, hget]

theorem lt_of_mem_dependencies_ofSteps (h : a ∈ (ofSteps steps).dependencies b) :
    a < b ∧ b < steps.length := by
  obtain ⟨s, hget, ha⟩ := mem_dependencies_ofSteps.1 h
  exact ⟨(mem_earlier.1 ha).1, (List.getElem?_eq_some_iff.1 hget).1⟩

theorem mem_dependents_iff : b ∈ d.dependents a ↔ a ∈ d.dependencies b := by
  rw [dependents, List.mem_filter, List.mem_range, List.contains_iff_mem]
  exact and_iff_right_of_imp lt_size_of_mem

theorem ascending_dependencies (steps : List Step) (b : Nat) :
    ((ofSteps steps).dependencies b).Pairwise (· < ·) := by
  cases hget : steps[b]? with
  | none => simp [dependencies, ofSteps, List.getElem?_zipIdx, hget]
  | some s =>
    simp only [dependencies, ofSteps, List.getElem?_map, List.getElem?_zipIdx, hget]
    exact List.pairwise_lt_range.filter _

theorem ascending_dependents (d : Dependencies) (a : Nat) : (d.dependents a).Pairwise (· < ·) :=
  List.pairwise_lt_range.filter _

theorem dependencies_ofSteps_of_le (h : steps.length ≤ b) :
    (ofSteps steps).dependencies b = [] := by
  apply List.eq_nil_iff_forall_not_mem.2
  intro a ha
  have hlt := lt_of_mem_dependencies_ofSteps ha
  omega

theorem dependents_ofSteps_of_le (h : steps.length ≤ a) : (ofSteps steps).dependents a = [] := by
  apply List.eq_nil_iff_forall_not_mem.2
  intro b hb
  have hlt := lt_of_mem_dependencies_ofSteps (mem_dependents_iff.1 hb)
  omega

section Dangling

-- The entries of the steps from `place` on.
def looseFrom (place : Nat) : List Step → List (Nat × Nat)
  | [] => []
  | s :: rest => s.loose place ++ looseFrom (place + 1) rest

theorem flatMap_zipIdx (place : Nat) (steps : List Step) :
    ((steps.zipIdx place).flatMap fun s => s.1.loose s.2) = looseFrom place steps := by
  induction steps generalizing place with
  | nil => rfl
  | cons s rest ih => rw [List.zipIdx_cons, List.flatMap_cons, ih, looseFrom]

theorem dangling_ofSteps (steps : List Step) : (ofSteps steps).dangling = looseFrom 0 steps := by
  rw [← flatMap_zipIdx]
  simp only [Step.loose_eq]
  rfl

theorem fst_of_mem_loose (h : entry ∈ s.loose place) : entry.1 = place := by
  obtain ⟨p, -, rfl⟩ := List.mem_map.1 h
  rfl

theorem bounds_of_mem_looseFrom (h : entry ∈ looseFrom place steps) :
    place ≤ entry.1 ∧ entry.1 < place + steps.length := by
  induction steps generalizing place with
  | nil => cases h
  | cons s rest ih =>
    rw [List.length_cons]
    rcases List.mem_append.1 h with hfirst | hrest
    · have hplace := fst_of_mem_loose hfirst
      omega
    · have hbounds := ih hrest
      omega

theorem pairwise_looseFrom (place : Nat) (steps : List Step) :
    (looseFrom place steps).Pairwise fun e e' => e.1 ≤ e'.1 := by
  induction steps generalizing place with
  | nil => exact List.Pairwise.nil
  | cons s rest ih =>
    apply List.pairwise_append.2
    refine ⟨?_, ih (place + 1), ?_⟩
    · apply List.pairwise_of_forall_mem_list
      intro e he e' he'
      rw [fst_of_mem_loose he, fst_of_mem_loose he']
    · intro e he e' he'
      have hplace := fst_of_mem_loose he
      have hbounds := bounds_of_mem_looseFrom he'
      omega

theorem filter_looseFrom (hget : steps[i]? = some s) :
    ((looseFrom place steps).filter fun entry => entry.1 = place + i) = s.loose (place + i) := by
  induction steps generalizing place i with
  | nil => cases hget
  | cons first rest ih =>
    rw [looseFrom, List.filter_append]
    cases i with
    | zero =>
      cases hget
      have hfirst : (s.loose place).filter (fun entry => entry.1 = place + 0) = s.loose place := by
        apply List.filter_eq_self.2
        intro entry hentry
        simpa using fst_of_mem_loose hentry
      have hrest : (looseFrom (place + 1) rest).filter (fun entry => entry.1 = place + 0) = [] := by
        apply List.filter_eq_nil_iff.2
        intro entry hentry
        have hbounds := bounds_of_mem_looseFrom hentry
        simp only [decide_eq_true_eq]
        omega
      rw [hfirst, hrest, List.append_nil]
      rfl
    | succ i =>
      have hfirst : (first.loose place).filter (fun entry => entry.1 = place + (i + 1)) = [] := by
        apply List.filter_eq_nil_iff.2
        intro entry hentry
        have hplace := fst_of_mem_loose hentry
        simp only [decide_eq_true_eq]
        omega
      have hindex : place + (i + 1) = place + 1 + i := by omega
      rw [hfirst, List.nil_append, hindex]
      exact ih hget

end Dangling

end Dependencies

namespace Edges

variable {steps : List Step} {a b : Nat}

theorem size_ofSteps (steps : List Step) : (ofSteps steps).size = steps.length :=
  size_foldl_addStep

theorem nodup_ofSteps (steps : List Step) : (ofSteps steps).pairs.Nodup :=
  nodup_foldl_addStep List.nodup_nil

theorem mem_pairs_ofSteps :
    (a, b) ∈ (ofSteps steps).pairs ↔ a ∈ (Dependencies.ofSteps steps).dependencies b := by
  rw [ofSteps, mem_pairs_foldl_addStep, Dependencies.mem_dependencies_ofSteps]
  simp only [List.not_mem_nil, false_or, List.mem_zipIdx_iff_getElem?]

-- The graph that is built pointer by pointer answers what the dependencies of the steps are.

theorem dependencies_ofSteps (steps : List Step) :
    (ofSteps steps).dependencies = (Dependencies.ofSteps steps).dependencies := by
  funext b
  apply neighbors_eq (nodup_ofSteps steps) (fun p q hb ha => Prod.ext ha hb)
  · exact Dependencies.ascending_dependencies steps b
  · rw [size_ofSteps]
    exact Dependencies.dependencies_ofSteps_of_le
  · intro a
    rw [← mem_pairs_ofSteps]
    simp

theorem dependents_ofSteps (steps : List Step) :
    (ofSteps steps).dependents = (Dependencies.ofSteps steps).dependents := by
  funext a
  apply neighbors_eq (nodup_ofSteps steps) (fun p q ha hb => Prod.ext ha hb)
  · exact Dependencies.ascending_dependents _ a
  · rw [size_ofSteps]
    exact Dependencies.dependents_ofSteps_of_le
  · intro b
    rw [Dependencies.mem_dependents_iff, ← mem_pairs_ofSteps]
    simp

theorem dangling_ofSteps (steps : List Step) :
    (ofSteps steps).dangling = (Dependencies.ofSteps steps).dangling := by
  rw [Dependencies.dangling_ofSteps, ← Dependencies.flatMap_zipIdx, ofSteps, dangling_foldl_addStep,
    List.nil_append]

end Edges

-- What it is for dependencies to come from the pointers of these steps.
structure Dependencies.Collected (d : Dependencies) (steps : List Step) : Prop where
  converse : ∀ {a b}, a ∈ d.dependencies b ↔ b ∈ d.dependents a
  backward : ∀ {a b}, a ∈ d.dependencies b → a < b ∧ b < steps.length
  ascending : ∀ i, (d.dependencies i).Pairwise (· < ·) ∧ (d.dependents i).Pairwise (· < ·)
  outside : ∀ {i}, steps.length ≤ i → d.dependencies i = [] ∧ d.dependents i = []
  -- However many pointers lead to a step, it is one dependency.
  joined : ∀ {a b}, a ∈ d.dependencies b ↔
    ∃ s, steps[b]? = some s ∧ ∃ p ∈ s.pointers, p.step = a ∧ a < b
  -- Step by step, and for each step one entry a pointer, in order.
  inOrder : d.dangling.Pairwise fun e e' => e.1 ≤ e'.1
  inside : ∀ entry ∈ d.dangling, entry.1 < steps.length
  dangling : ∀ {i s}, steps[i]? = some s → (d.dangling.filter fun entry => entry.1 = i) =
    (s.pointers.filter (i ≤ ·.step)).map fun p => (i, p.step)
  either : ∀ {i s}, steps[i]? = some s → ∀ p ∈ s.pointers,
    (p.step ∈ d.dependencies i ↔ (i, p.step) ∉ d.dangling)
  -- The graph may as well be built pointer by pointer.
  built : (Edges.ofSteps steps).dependencies = d.dependencies ∧
    (Edges.ofSteps steps).dependents = d.dependents ∧ (Edges.ofSteps steps).dangling = d.dangling

namespace Plan

theorem mem_dependencies_iff_pointer {plan : Plan} {a b : Nat} :
    a ∈ plan.dependencies.dependencies b ↔
      ∃ s, plan.steps[b]? = some s ∧ ∃ p ∈ s.pointers, p.step = a ∧ a < b := by
  simp only [dependencies, Dependencies.mem_dependencies_ofSteps, Dependencies.mem_earlier,
    Step.targets_eq, List.mem_map]
  constructor
  · rintro ⟨s, hget, hlt, p, hp, hstep⟩
    exact ⟨s, hget, p, hp, hstep, hlt⟩
  · rintro ⟨s, hget, p, hp, hstep, hlt⟩
    exact ⟨s, hget, hlt, p, hp, hstep⟩

theorem dangling_iff_not_mem {plan : Plan} {i : Nat} {s : Step} {p : Pointer}
    (hget : plan.steps[i]? = some s) (hp : p ∈ s.pointers) :
    p.step ∈ plan.dependencies.dependencies i ↔ (i, p.step) ∉ plan.dependencies.dangling := by
  have htarget : p.step ∈ s.targets := by
    rw [s.targets_eq]
    exact List.mem_map_of_mem hp
  rw [mem_dangling, dependencies_of_getElem? hget, Dependencies.mem_earlier]
  constructor
  · rintro ⟨hlt, -⟩ ⟨_, -, -, hle⟩
    omega
  · intro hnone
    refine ⟨?_, htarget⟩
    by_contra hge
    exact hnone ⟨s, hget, htarget, by omega⟩

-- The dependencies of a plan are two converse readings of its pointers to earlier steps. All other
-- pointers dangle.
theorem collected (plan : Plan) : plan.dependencies.Collected plan.steps where
  converse := Dependencies.mem_dependents_iff.symm
  backward := Dependencies.lt_of_mem_dependencies_ofSteps
  ascending i := ⟨Dependencies.ascending_dependencies _ i, Dependencies.ascending_dependents _ i⟩
  outside h :=
    ⟨Dependencies.dependencies_ofSteps_of_le h, Dependencies.dependents_ofSteps_of_le h⟩
  joined := mem_dependencies_iff_pointer
  inOrder := by
    rw [dependencies, Dependencies.dangling_ofSteps]
    exact Dependencies.pairwise_looseFrom 0 plan.steps
  inside := by
    intro entry hentry
    rw [dependencies, Dependencies.dangling_ofSteps] at hentry
    have hbounds := Dependencies.bounds_of_mem_looseFrom hentry
    omega
  dangling := by
    intro i s hget
    have hloose : ((Dependencies.looseFrom 0 plan.steps).filter fun entry => entry.1 = 0 + i) =
        s.loose (0 + i) := Dependencies.filter_looseFrom hget
    rw [Nat.zero_add] at hloose
    rw [dependencies, Dependencies.dangling_ofSteps]
    exact hloose
  either hget p hp := dangling_iff_not_mem hget hp
  built := ⟨Edges.dependencies_ofSteps _, Edges.dependents_ofSteps _, Edges.dangling_ofSteps _⟩

end Plan

end Stepwise
