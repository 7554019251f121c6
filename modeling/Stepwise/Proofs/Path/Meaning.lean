import Stepwise.Path.Basic
import Stepwise.Proofs.Markup.Place

namespace Stepwise.Path

open Markup (Scope Place Document Attribute)

variable {o : Scope} {p : Place} {ps : List Place} {condition : Condition}
  {conditions : List Condition} {s : Step}

-- What a path selects, read from left to right. Each step goes from a set of nodes to the next one;
-- the first set is the page itself. In full, `//a` stands for the children `a` of the node and of
-- everything below it, so that positions are counted among the children of one element.

def Axis.scopes (axis : Axis) (o : Scope) : List Scope :=
  match axis with
  | child => [o]
  | descendant => o :: o.below.map .element

def NameTest.accepts : NameTest → Place → Bool
  | any, _ => true
  | name n, p => p.tag.name == n

def isNamed (a : String) (b : Attribute) : Bool := b.space == .plain && b.name == a

def valuesOf (p : Place) (a : String) : List String :=
  (p.tag.attributes.filter (isNamed a)).map Attribute.value

-- An element has at most one attribute of a name.
theorem valuesOf_cases (h : p.tag.Distinct) (a : String) :
    valuesOf p a = [] ∨ ∃ value, valuesOf p a = [value] := by
  have hkeys (attributes : List Attribute)
      (hnodup : (attributes.map fun b => (b.space, b.name)).Nodup) :
      attributes.filter (isNamed a) = [] ∨
        ∃ b, attributes.filter (isNamed a) = [b] := by
    induction attributes with
    | nil => exact .inl rfl
    | cons b attributes ih =>
      rw [List.map_cons, List.nodup_cons] at hnodup
      by_cases hb : isNamed a b = true
      · have hrest : attributes.filter (isNamed a) = [] := by
          refine List.filter_eq_nil_iff.2 fun c hc hsame => hnodup.1 ?_
          simp only [isNamed, Bool.and_eq_true, beq_iff_eq] at hb hsame
          exact List.mem_map.2 ⟨c, hc, by rw [hb.1, hb.2, hsame.1, hsame.2]⟩
        exact .inr ⟨b, by rw [List.filter_cons_of_pos hb, hrest]⟩
      · rw [List.filter_cons_of_neg hb]
        exact ih hnodup.2
  rcases hkeys p.tag.attributes h with hnone | ⟨b, hone⟩
  · exact .inl (by rw [valuesOf, hnone]; rfl)
  · exact .inr ⟨b.value, by rw [valuesOf, hone]; rfl⟩

-- A condition keeps some of the elements that the ones before it have left. As a text a set of
-- attributes is the first of them, or the empty text.
def Condition.keep (c : Condition) (ps : List Place) : List Place :=
  match c with
  | position n => (ps.drop (n - 1)).take 1
  | present a => ps.filter fun p => !(valuesOf p a).isEmpty
  | equal a v => ps.filter fun p => (valuesOf p a).contains v
  | part a v => ps.filter fun p => Text.contains v.toList ((valuesOf p a).headD "").toList

theorem mem_of_mem_keep (h : p ∈ condition.keep ps) : p ∈ ps := by
  cases condition with
  | position n => exact List.mem_of_mem_drop (List.mem_of_mem_take h)
  | present a => exact (List.mem_filter.1 h).1
  | equal a v => exact (List.mem_filter.1 h).1
  | part a v => exact (List.mem_filter.1 h).1

theorem mem_of_mem_foldl_keep (h : p ∈ conditions.foldl (fun ps c => c.keep ps) ps) : p ∈ ps := by
  induction conditions generalizing ps with
  | nil => exact h
  | cons c conditions ih => exact mem_of_mem_keep (ih h)

-- What a step keeps of the elements right in one node.
def Step.kept (s : Step) (o : Scope) : List Place :=
  s.conditions.foldl (fun ps c => c.keep ps) (o.elements.filter s.test.accepts)

def Step.select (s : Step) (o : Scope) : List Place :=
  (s.axis.scopes o).flatMap fun o =>
    s.conditions.foldl (fun ps c => c.keep ps) (o.elements.filter s.test.accepts)

def evaluate (steps : List Step) (o : Scope) : List Scope :=
  steps.foldl (fun os s => os.flatMap fun o => (s.select o).map .element) [o]

theorem Step.mem_select : p ∈ s.select o ↔ ∃ r ∈ s.axis.scopes o, p ∈ s.kept r := List.mem_flatMap

theorem foldl_select_eq (steps : List Step) (os : List Scope) :
    steps.foldl (fun os s => os.flatMap fun o => (s.select o).map .element) os =
      os.flatMap (evaluate steps) := by
  induction steps generalizing os with
  | nil => exact (List.flatMap_singleton' os).symm
  | cons s steps ih =>
    rw [List.foldl_cons, ih, List.flatMap_assoc]
    congr 1
    funext o
    rw [evaluate, List.foldl_cons, List.flatMap_singleton, ih]

theorem evaluate_cons (s : Step) (steps : List Step) (o : Scope) :
    evaluate (s :: steps) o = (s.select o).flatMap fun q => evaluate steps (.element q) := by
  rw [evaluate, List.foldl_cons, List.flatMap_singleton, foldl_select_eq, List.flatMap_map]

def Selects (page : Document) (steps : List Step) (p : Place) : Prop :=
  Scope.element p ∈ evaluate steps page.scope

end Stepwise.Path
