import Mathlib.Data.List.Induction
import Mathlib.Logic.Relation
import Stepwise.Proofs.Plan.Dependencies

namespace Stepwise

namespace Dependencies

variable {d : Dependencies} {layers : List (List Nat)} {depths : List Nat}
  {a b depth level n step : Nat}

-- A step stands in the layer with the number `level`.
def InLayer (layers : List (List Nat)) (level step : Nat) : Prop :=
  step ∈ (layers[level]?).getD []

-- Layers are made empty, so making some leaves the steps where they are.
theorem exists_join (layers : List (List Nat)) (step depth : Nat) :
    ∃ before layer after,
      layers ++ List.replicate (depth + 1 - layers.length) [] = before ++ layer :: after ∧
      before.length = depth ∧ join layers step depth = before ++ (layer ++ [step]) :: after := by
  apply List.exists_of_modify
  simp only [List.length_append, List.length_replicate]
  omega

theorem length_join : (join layers step depth).length = max layers.length (depth + 1) := by
  simp only [join, List.length_modify, List.length_append, List.length_replicate]
  omega

theorem flatten_join : (join layers step depth).flatten.Perm (layers.flatten ++ [step]) := by
  obtain ⟨before, layer, after, hgrown, -, hjoin⟩ := exists_join layers step depth
  have hflatten : layers.flatten = before.flatten ++ (layer ++ after.flatten) := by
    have hsame := congrArg List.flatten hgrown
    simpa using hsame
  rw [hjoin, hflatten, List.flatten_append, List.flatten_cons, List.append_assoc, List.append_assoc,
    List.append_assoc]
  apply List.Perm.append_left
  apply List.Perm.append_left
  exact List.perm_append_comm

theorem ascending_join (h : ∀ layer ∈ layers, layer.Pairwise (· < ·))
    (hstep : ∀ a ∈ layers.flatten, a < step) :
    ∀ layer ∈ join layers step depth, layer.Pairwise (· < ·) := by
  obtain ⟨before, layer, after, hgrown, -, hjoin⟩ := exists_join layers step depth
  have hold : ∀ other ∈ before ++ layer :: after,
      other.Pairwise (· < ·) ∧ ∀ a ∈ other, a < step := by
    rw [← hgrown]
    intro other hother
    rcases List.mem_append.1 hother with hmem | hmem
    · exact ⟨h other hmem, fun a ha => hstep a (List.mem_flatten_of_mem hmem ha)⟩
    · rw [List.eq_of_mem_replicate hmem]
      exact ⟨List.Pairwise.nil, nofun⟩
  rw [hjoin]
  intro other hother
  rcases List.mem_append.1 hother with hmem | hmem
  · exact (hold other (List.mem_append_left _ hmem)).1
  · rcases List.mem_cons.1 hmem with rfl | hmem
    · have hlayer := hold layer (by simp)
      rw [List.pairwise_append]
      exact ⟨hlayer.1, List.pairwise_singleton .., fun a ha b hb =>
        (List.mem_singleton.1 hb) ▸ hlayer.2 a ha⟩
    · exact (hold other (by simp [hmem])).1

theorem inLayer_join :
    InLayer (join layers step depth) level a ↔
      InLayer layers level a ∨ (level = depth ∧ a = step) := by
  unfold InLayer
  simp only [join, List.getElem?_modify, List.getElem?_append, List.getElem?_replicate]
  by_cases hlevel : level < layers.length
  · rw [if_pos hlevel, List.getElem?_eq_getElem hlevel]
    by_cases hdepth : depth = level
    · simp [hdepth]
    · simp [hdepth, Ne.symm hdepth]
  · rw [if_neg hlevel, List.getElem?_eq_none (by omega)]
    by_cases hdepth : depth = level
    · subst hdepth
      have hmade : depth - layers.length < depth + 1 - layers.length := by omega
      simp [hmade]
    · by_cases hmade : level - layers.length < depth + 1 - layers.length
      · simp [hdepth, hmade, Ne.symm hdepth]
      · simp [hmade, Ne.symm hdepth]

-- Every step once, in order within its layer, and the last layer no deeper than some step.
structure Grouped (depths : List Nat) (layers : List (List Nat)) : Prop where
  perm : layers.flatten.Perm (List.range depths.length)
  ascending : ∀ layer ∈ layers, layer.Pairwise (· < ·)
  inLayer_iff : ∀ {level step}, InLayer layers level step ↔ depths[step]? = some level
  exists_depth : ∀ {level}, level < layers.length → ∃ depth ∈ depths, level ≤ depth

theorem Grouped.nil : Grouped [] [] where
  perm := .nil
  ascending := nofun
  inLayer_iff := by simp [InLayer]
  exists_depth := nofun

theorem Grouped.concat (h : Grouped depths layers) (depth : Nat) :
    Grouped (depths ++ [depth]) (join layers depths.length depth) where
  perm := by
    rw [List.length_append, List.length_singleton, List.range_succ]
    exact flatten_join.trans (h.perm.append_right _)
  ascending := by
    apply ascending_join h.ascending
    intro a ha
    exact List.mem_range.1 (h.perm.mem_iff.1 ha)
  inLayer_iff := by
    intro level step
    rw [inLayer_join, h.inLayer_iff]
    by_cases hlt : step < depths.length
    · rw [List.getElem?_append_left hlt]
      have hne : step ≠ depths.length := by omega
      simp [hne]
    · rw [List.getElem?_append_right (by omega), List.getElem?_eq_none (by omega)]
      by_cases heq : step = depths.length
      · simp [heq, eq_comm]
      · have hpos : step - depths.length ≠ 0 := by omega
        simp [heq, hpos]
  exists_depth := by
    intro level hlevel
    rw [length_join] at hlevel
    by_cases hlt : level < layers.length
    · obtain ⟨other, hother, hle⟩ := h.exists_depth hlt
      exact ⟨other, List.mem_append_left _ hother, hle⟩
    · exact ⟨depth, by simp, by omega⟩

theorem grouped_grouped (depths : List Nat) : Grouped depths (grouped depths) := by
  induction depths using List.reverseRecOn with
  | nil => exact .nil
  | append_singleton depths depth ih =>
    have hlast : grouped (depths ++ [depth]) = join (grouped depths) depths.length depth := by
      simp [grouped, List.zipIdx_append]
    rw [hlast]
    exact ih.concat depth

theorem foldl_max_le_iff {xs : List Nat} : xs.foldl max a ≤ n ↔ a ≤ n ∧ ∀ x ∈ xs, x ≤ n := by
  induction xs generalizing a with
  | nil => simp
  | cons x xs ih => rw [List.foldl_cons, ih, Nat.max_le, List.forall_mem_cons, and_assoc]

variable {sofar reads : List Nat} {edges : List (List Nat)}

theorem length_depths (sofar : List Nat) (edges : List (List Nat)) :
    (Dependencies.depths sofar edges).length = sofar.length + edges.length := by
  induction edges generalizing sofar with
  | nil => rfl
  | cons reads edges ih =>
    rw [Dependencies.depths, ih, List.length_append, List.length_singleton, List.length_cons]
    omega

theorem length_depths_edges (d : Dependencies) : (Dependencies.depths [] d.edges).length = d.size := by
  rw [length_depths, List.length_nil, Nat.zero_add, size]

-- A depth stays as it was computed.
theorem getElem?_depths_of_lt (h : a < sofar.length) :
    (Dependencies.depths sofar edges)[a]? = sofar[a]? := by
  induction edges generalizing sofar with
  | nil => rfl
  | cons reads edges ih =>
    rw [Dependencies.depths, ih, List.getElem?_append_left h]
    rw [List.length_append]
    omega

-- A step that reads earlier ones only has its depth from theirs, and so it makes no difference
-- whether these are looked up in the depths so far or in all.
theorem getElem?_depths {i : Nat} (hget : edges[i]? = some reads)
    (hreads : ∀ a ∈ reads, a < sofar.length + i) :
    (Dependencies.depths sofar edges)[sofar.length + i]? =
      some ((reads.map fun a => ((Dependencies.depths sofar edges)[a]?).getD 0 + 1).foldl max 0) := by
  induction edges generalizing sofar i with
  | nil => cases hget
  | cons first edges ih =>
    cases i with
    | zero =>
      obtain rfl : first = reads := by simpa using hget
      have hsame : (first.map fun a =>
            ((Dependencies.depths sofar (first :: edges))[a]?).getD 0 + 1) =
          first.map fun a => (sofar[a]?).getD 0 + 1 := by
        apply List.map_congr_left
        intro a ha
        rw [getElem?_depths_of_lt (hreads a ha)]
      rw [hsame, Dependencies.depths, getElem?_depths_of_lt (by simp)]
      simp
    | succ i =>
      rw [List.getElem?_cons_succ] at hget
      have hindex (depth : Nat) : sofar.length + (i + 1) = (sofar ++ [depth]).length + i := by
        rw [List.length_append, List.length_singleton]
        omega
      rw [Dependencies.depths, hindex]
      apply ih hget
      rwa [← hindex]

-- Steps read earlier steps only.
def Backward (d : Dependencies) : Prop := ∀ {a b}, a ∈ d.dependencies b → a < b

theorem lt_size_of_mem (h : a ∈ d.dependencies b) : b < d.size := by
  by_contra hsize
  have hnone : d.edges[b]? = none := List.getElem?_eq_none (by unfold size at hsize; omega)
  simp [dependencies, hnone] at h

theorem depth_le_iff (hd : d.Backward) : d.depth b ≤ n ↔ ∀ a ∈ d.dependencies b, d.depth a < n := by
  by_cases hb : b < d.edges.length
  · have hget : d.edges[b]? = some (d.dependencies b) := by
      simp [dependencies, List.getElem?_eq_getElem hb]
    have hdepth : (Dependencies.depths [] d.edges)[b]? = some (((d.dependencies b).map fun a =>
        ((Dependencies.depths [] d.edges)[a]?).getD 0 + 1).foldl max 0) := by
      have hlast := @getElem?_depths [] _ _ b hget (by simpa using fun a ha => hd ha)
      rwa [List.length_nil, Nat.zero_add] at hlast
    rw [depth, hdepth, Option.getD_some, foldl_max_le_iff, List.forall_mem_map]
    simp only [depth, Nat.zero_le, true_and, Nat.succ_le_iff]
  · have hnone : d.edges[b]? = none := List.getElem?_eq_none (by omega)
    have hdepth : (Dependencies.depths [] d.edges)[b]? = none := by
      apply List.getElem?_eq_none
      rw [length_depths_edges, size]
      omega
    simp [depth, dependencies, hnone, hdepth]

theorem getElem?_depths_edges : (Dependencies.depths [] d.edges)[step]? = some level ↔
    step < d.size ∧ d.depth step = level := by
  have hlength := length_depths_edges d
  by_cases hstep : step < d.size
  · have hget := List.getElem?_eq_getElem (hlength.symm ▸ hstep)
    simp [depth, hget, hstep]
  · have hget : (Dependencies.depths [] d.edges)[step]? = none :=
      List.getElem?_eq_none (by omega)
    simp [hget, hstep]

theorem inLayer_layers_iff :
    InLayer d.layers level step ↔ step < d.size ∧ d.depth step = level := by
  rw [layers, (grouped_grouped _).inLayer_iff, getElem?_depths_edges]

-- A chain of `length` dependencies, each of the next one, that ends at a step.
inductive ChainTo (d : Dependencies) : (length step : Nat) → Prop
  | start (step : Nat) : ChainTo d 0 step
  | next {length a b : Nat} (h : ChainTo d length a) (hmem : a ∈ d.dependencies b) :
    ChainTo d (length + 1) b

-- A step whose result goes into another one, perhaps through steps between them.
def Feeds (d : Dependencies) : Nat → Nat → Prop := Relation.TransGen fun a b => a ∈ d.dependencies b

section

variable (hd : d.Backward)
include hd

theorem depth_lt_of_mem (h : a ∈ d.dependencies b) : d.depth a < d.depth b :=
  (depth_le_iff hd).1 (Nat.le_refl _) a h

theorem exists_mem_of_depth (h : d.depth b = n + 1) : ∃ a ∈ d.dependencies b, d.depth a = n := by
  have hdeep : ¬ ∀ a ∈ d.dependencies b, d.depth a < n := by
    rw [← depth_le_iff hd]
    omega
  push Not at hdeep
  obtain ⟨a, ha, hle⟩ := hdeep
  have hlt := depth_lt_of_mem hd ha
  exact ⟨a, ha, by omega⟩

-- Going back along the deepest dependencies meets every depth.
theorem exists_depth_eq (hb : b < d.size) (h : n ≤ d.depth b) : ∃ a < d.size, d.depth a = n := by
  obtain ⟨m, hm⟩ : ∃ m, d.depth b = n + m := ⟨d.depth b - n, by omega⟩
  induction m generalizing b with
  | zero => exact ⟨b, hb, hm⟩
  | succ m ih =>
    obtain ⟨a, ha, hdepth⟩ := exists_mem_of_depth hd (n := n + m) (by omega)
    have hlt := hd ha
    exact ih (by omega) (by omega) hdepth

theorem ChainTo.le_depth (h : d.ChainTo n b) : n ≤ d.depth b := by
  induction h with
  | start => exact Nat.zero_le _
  | next _ hmem ih =>
    have hlt := depth_lt_of_mem hd hmem
    omega

theorem chainTo_depth (b : Nat) : d.ChainTo (d.depth b) b := by
  obtain ⟨n, hn⟩ : ∃ n, d.depth b = n := ⟨_, rfl⟩
  rw [hn]
  induction n generalizing b with
  | zero => exact .start b
  | succ n ih =>
    obtain ⟨a, ha, hdepth⟩ := exists_mem_of_depth hd hn
    exact .next (ih a hdepth) ha

theorem depth_lt_of_feeds (h : d.Feeds a b) : d.depth a < d.depth b := by
  induction h with
  | single hmem => exact depth_lt_of_mem hd hmem
  | tail _ hmem ih => exact Nat.lt_trans ih (depth_lt_of_mem hd hmem)

end

-- What it is for lists of the steps below `count` to be the layers of a graph.
structure Layering (d : Dependencies) (count : Nat) (layers : List (List Nat)) : Prop where
  -- Each step stands in one place.
  perm : layers.flatten.Perm (List.range count)
  ne_nil : ∀ layer ∈ layers, layer ≠ []
  ascending : ∀ layer ∈ layers, layer.Pairwise (· < ·)
  longest : ∀ {level step}, InLayer layers level step →
    d.ChainTo level step ∧ ∀ {length}, d.ChainTo length step → length ≤ level
  first : ∀ {step}, step < count → d.dependencies step = [] → InLayer layers 0 step
  earlier : ∀ {level step a}, InLayer layers level step → a ∈ d.dependencies step →
    ∃ below < level, InLayer layers below a
  next : ∀ {level step}, InLayer layers (level + 1) step →
    ∃ a ∈ d.dependencies step, InLayer layers level a
  apart : ∀ layer ∈ layers, ∀ a ∈ layer, ∀ b ∈ layer, ¬ d.Feeds a b

theorem InLayer.of_getElem? {layer : List Nat} (hget : layers[level]? = some layer) :
    InLayer layers level step ↔ step ∈ layer := by
  rw [InLayer, hget, Option.getD_some]

theorem layering_layers (hd : d.Backward) : d.Layering d.size d.layers := by
  have hgrouped : Grouped (Dependencies.depths [] d.edges) d.layers := grouped_grouped _
  have hdepth {level step : Nat} (h : InLayer d.layers level step) :
      step < d.size ∧ d.depth step = level := inLayer_layers_iff.1 h
  constructor
  case perm => exact length_depths_edges d ▸ hgrouped.perm
  case ascending => exact hgrouped.ascending
  case ne_nil =>
    intro layer hlayer hnil
    obtain ⟨level, hget⟩ := List.getElem?_of_mem hlayer
    obtain ⟨hlevel, -⟩ := List.getElem?_eq_some_iff.1 hget
    obtain ⟨depth, hmem, hle⟩ := hgrouped.exists_depth hlevel
    obtain ⟨b, hb⟩ := List.getElem?_of_mem hmem
    obtain ⟨hsize, rfl⟩ := getElem?_depths_edges.1 hb
    obtain ⟨a, ha, heq⟩ := exists_depth_eq hd hsize hle
    have hin : a ∈ layer := (InLayer.of_getElem? hget).1 (inLayer_layers_iff.2 ⟨ha, heq⟩)
    rw [hnil] at hin
    cases hin
  case longest =>
    intro level step h
    obtain ⟨-, rfl⟩ := hdepth h
    exact ⟨chainTo_depth hd step, fun hchain => hchain.le_depth hd⟩
  case first =>
    intro step hstep hnone
    have hzero : d.depth step ≤ 0 := (depth_le_iff hd).2 (by simp [hnone])
    exact inLayer_layers_iff.2 ⟨hstep, by omega⟩
  case earlier =>
    intro level step a h ha
    obtain ⟨hstep, rfl⟩ := hdepth h
    have hlt := hd ha
    exact ⟨d.depth a, depth_lt_of_mem hd ha, inLayer_layers_iff.2 ⟨by omega, rfl⟩⟩
  case next =>
    intro level step h
    obtain ⟨hstep, hlevel⟩ := hdepth h
    obtain ⟨a, ha, hdeepest⟩ := exists_mem_of_depth hd hlevel
    have hlt := hd ha
    exact ⟨a, ha, inLayer_layers_iff.2 ⟨by omega, hdeepest⟩⟩
  case apart =>
    intro layer hlayer a ha b hb hfeeds
    obtain ⟨level, hget⟩ := List.getElem?_of_mem hlayer
    obtain ⟨-, hdeptha⟩ := hdepth ((InLayer.of_getElem? hget).2 ha)
    obtain ⟨-, hdepthb⟩ := hdepth ((InLayer.of_getElem? hget).2 hb)
    have hlt := depth_lt_of_feeds hd hfeeds
    omega

example : Dependencies.layers ⟨[[], [], [0], [1], [2, 3], []], []⟩ = [[0, 1, 5], [2, 3], [4]] := by decide

end Dependencies

namespace Plan

theorem size_dependencies (plan : Plan) : plan.dependencies.size = plan.steps.length := by
  simp [dependencies, Dependencies.ofSteps, Dependencies.size]

theorem backward_dependencies (plan : Plan) : plan.dependencies.Backward := by
  intro a b h
  have hb : b < plan.steps.length := plan.size_dependencies ▸ Dependencies.lt_size_of_mem h
  rw [dependencies_of_getElem? (List.getElem?_eq_getElem hb)] at h
  exact (Dependencies.mem_earlier.1 h).1

-- Every step of a plan stands in one layer, as deep as the longest chain of dependencies that ends
-- at it.
theorem layering (plan : Plan) :
    plan.dependencies.Layering plan.steps.length plan.dependencies.layers := by
  rw [← plan.size_dependencies]
  exact Dependencies.layering_layers plan.backward_dependencies

end Plan

end Stepwise
