import Stepwise.Proofs.Path.Compound

namespace Stepwise.Path

open Markup (Scope Place Document Node Space)
open Selector (Simple)

variable {space : Space} {o : Scope} {p : Place} {s : Step} {path : Path} {n : Nat}
  {text : List Char}

-- A step with a position behind its other conditions.
def Step.counting (s : Step) (n : Nat) : Step :=
  { s with conditions := s.conditions ++ [.position n] }

theorem Step.parts_counting (s : Step) (n : Nat) :
    (s.counting n).parts = s.parts ++ [.nth true false ⟨0, Selector.Token.counted n⟩] := by
  simp [counting, parts, Condition.simple]

-- Read as it is meant, the position counts the elements that the conditions before it have kept.
theorem Step.mem_kept_counting : p ∈ (s.counting n).kept o ↔ (s.kept o)[n - 1]? = some p := by
  rw [kept, counting, List.foldl_append, List.foldl_cons, List.foldl_nil, mem_keep_position]
  rfl

theorem Step.Readable.counting (h : s.Readable) (n : Nat) : (s.counting n).Readable where
  test := h.test
  conditions := List.forall_mem_append.2 ⟨h.conditions, by simp [Condition.Readable]⟩

-- Compiled, it counts the elements of one name.
theorem Step.Readable.matches_counting_iff (h : s.Readable) (ho : o.IsTree space) (hlow : 1 ≤ n)
    (hp : p ∈ o.elements) : (s.counting n).Matches p ↔
      s.Matches p ∧ (namesakes o p)[Selector.Token.counted n - 1]? = some p := by
  have hcounted : 1 ≤ Selector.Token.counted n := by
    rw [Selector.Token.counted]
    omega
  rw [(h.counting n).matches_iff, h.matches_iff, s.parts_counting, List.forall_mem_append,
    List.forall_mem_singleton, getElem?_namesakes ho hcounted hp]
  simp only [Simple.holds, Selector.has_index]

-- Where the elements of its name are those that are kept, both are the same. They are behind a name.

theorem Step.matches_counting_iff_mem_kept (hkept : p ∈ s.kept o ↔ s.Matches p)
    (hmatches : (s.counting n).Matches p ↔
      s.Matches p ∧ (namesakes o p)[Selector.Token.counted n - 1]? = some p)
    (hsame : p ∈ s.kept o → namesakes o p = s.kept o) (hhigh : n < 0x80000000) :
    (s.counting n).Matches p ↔ p ∈ (s.counting n).kept o := by
  rw [hmatches, Step.mem_kept_counting, Selector.Token.counted_of_lt hhigh, ← hkept]
  constructor
  · rintro ⟨hp, hindex⟩
    rwa [hsame hp] at hindex
  · intro hindex
    have hp := List.mem_of_getElem? hindex
    exact ⟨hp, by rwa [hsame hp]⟩

theorem namesakes_eq_kept (htest : ∃ name, s.test = .name name) (hconditions : s.conditions = [])
    (hp : p ∈ s.kept o) : namesakes o p = s.kept o := by
  obtain ⟨name, htest⟩ := htest
  rw [Step.kept, hconditions, List.foldl_nil, htest] at hp ⊢
  have hname : p.tag.name = name := by simpa [NameTest.accepts] using (List.mem_filter.1 hp).2
  simp only [namesakes, hname]
  rfl

-- A position behind conditions counts all elements of one name that stand side by side, whether they
-- are kept or not. Counting ends at 2^31 - 1.
theorem read_counts_namesakes (hread : read text = .ok path) (hstep : s.counting n ∈ path.steps)
    (hlegible : s.Legible) :
    (Selector.read? (s.counting n).compoundText).isSome = true ∧
      ∀ (space : Space) (page : Document), page.IsTree space →
        ∀ o ∈ Axis.descendant.scopes page.scope, ∀ p ∈ o.elements,
          ((s.counting n).Matches p ↔
            s.Matches p ∧ (namesakes o p)[min n 0x7FFFFFFF - 1]? = some p) ∧
          (s.Clear → (space = .html → ∀ c ∈ s.conditions, c.Cased) →
            (p ∈ s.kept o ↔ s.Matches p) ∧
            (p ∈ (s.counting n).kept o ↔ (s.kept o)[n - 1]? = some p) ∧
            (n < 0x80000000 →
              ((∃ name, s.test = .name name) ∧ s.conditions = [] ∨
                (p ∈ s.kept o → namesakes o p = s.kept o)) →
              ((s.counting n).Matches p ↔ p ∈ (s.counting n).kept o))) := by
  have hproper := proper_of_read hread _ hstep
  obtain ⟨hconditions, hposition⟩ := List.forall_mem_append.1 hproper.conditions
  obtain ⟨hlow, -⟩ := List.forall_mem_singleton.1 hposition
  have hreadable : s.Readable := Step.Proper.readable ⟨hproper.test, hconditions⟩ hlegible
  refine ⟨?_, fun space page hpage o ho p hp => ?_⟩
  · rw [(hreadable.counting n).read?_eq]
    rfl
  · have htree := isTree_of_mem_scopes hpage.scope_isTree o ho
    have hmatches := hreadable.matches_counting_iff htree hlow hp
    refine ⟨hmatches, fun hclear hcase => ?_⟩
    have hkept := hclear.mem_kept_iff_matches hreadable htree hp hcase
    refine ⟨hkept, Step.mem_kept_counting, fun hhigh hsame => ?_⟩
    have hnamesakes : p ∈ s.kept o → namesakes o p = s.kept o := by
      rcases hsame with ⟨hname, hnone⟩ | hsame
      · exact namesakes_eq_kept hname hnone
      · exact hsame
    exact Step.matches_counting_iff_mem_kept hkept hmatches hnamesakes hhigh

-- A list of two items and a note, the second item marked.
def listItems : List Node :=
  [.element ⟨2, .html, "li", []⟩ [.text "a"],
   .element ⟨3, .html, "li", [{ name := "class", value := "x" }]⟩ [.text "b"],
   .element ⟨4, .html, "p", []⟩ [.text "c"]]

def listPage : Document where
  children := [.element ⟨1, .html, "ul", []⟩ listItems]
  loose := []

theorem isTree_listPage : listPage.IsTree .html :=
  ⟨by simp [listPage, listItems, Markup.Tag.Distinct], rfl⟩

def listPlace : Place := .top true [] ⟨1, .html, "ul", []⟩ listItems []

def markedItem : Place :=
  .inside listPlace [.element ⟨2, .html, "li", []⟩ [.text "a"]]
    ⟨3, .html, "li", [{ name := "class", value := "x" }]⟩ [.text "b"]
    [.element ⟨4, .html, "p", []⟩ [.text "c"]]

def note : Place :=
  .inside listPlace
    [.element ⟨3, .html, "li", [{ name := "class", value := "x" }]⟩ [.text "b"],
     .element ⟨2, .html, "li", []⟩ [.text "a"]]
    ⟨4, .html, "p", []⟩ [.text "c"] []

theorem mem_scopes_listPage : Scope.element listPlace ∈ Axis.descendant.scopes listPage.scope :=
  List.mem_cons_of_mem _ List.mem_cons_self

def marked : Step := ⟨.descendant, .name "li", [.equal "class" "x"]⟩

theorem read_counts_namesakes_marked :
    read "//li[@class='x'][2]".toList = .ok ⟨[marked.counting 2], .text⟩ ∧ marked.Legible ∧
      listPage.IsTree .html ∧ Scope.element listPlace ∈ Axis.descendant.scopes listPage.scope ∧
      markedItem ∈ (Scope.element listPlace).elements ∧
      (marked.counting 2).Matches markedItem := by
  have hread : read "//li[@class='x'][2]".toList = .ok ⟨[marked.counting 2], .text⟩ :=
    read_written (List.cons_ne_nil _ _) (by decide) (by decide +kernel)
  have hlegible : marked.Legible := by decide
  have hitem : markedItem ∈ (Scope.element listPlace).elements :=
    List.mem_cons_of_mem _ List.mem_cons_self
  obtain ⟨-, hcounts⟩ := read_counts_namesakes hread List.mem_cons_self hlegible
  obtain ⟨hmatches, -⟩ :=
    hcounts .html listPage isTree_listPage _ mem_scopes_listPage markedItem hitem
  have hmarked : marked.Matches markedItem := by decide +kernel
  exact ⟨hread, hlegible, isTree_listPage, mem_scopes_listPage, hitem, hmatches.2 ⟨hmarked, rfl⟩⟩

-- A page that is one element without content.
def onlyPage (name : String) (attributes : List Markup.Attribute) : Document where
  children := [.element ⟨1, .html, name, attributes⟩ []]
  loose := []

def onlyPlace (name : String) (attributes : List Markup.Attribute) : Place :=
  .top true [] ⟨1, .html, name, attributes⟩ [] []

-- As many paragraphs side by side as one likes.

def crowd (k : Nat) : Document where
  children := List.replicate k (.element ⟨1, .html, "p", []⟩ [])
  loose := []

theorem isTree_crowd (k : Nat) : (crowd k).IsTree .html := by
  refine ⟨fun n hn => ?_, rfl⟩
  rw [List.eq_of_mem_replicate hn]
  simp [Markup.Tag.Distinct]

theorem length_crowd (k : Nat) : (crowd k).scope.elements.length = k := by
  have hlength (before : List Node) (k : Nat) :
      (Place.rightward (.top true) before
        (List.replicate k (.element ⟨1, .html, "p", []⟩ []))).length = k := by
    induction k generalizing before with
    | zero => rfl
    | succ k ih => rw [List.replicate_succ, Place.rightward, List.length_cons, ih]
  exact hlength [] k

theorem name_crowd {k : Nat} (hp : p ∈ (crowd k).scope.elements) : p.tag.name = "p" := by
  have hnode : p.node = .element ⟨1, .html, "p", []⟩ [] :=
    List.eq_of_mem_replicate (Scope.node_mem_nodes hp)
  have htag : p.tag = ⟨1, .html, "p", []⟩ := (Node.element.inj hnode).1
  rw [htag]

def paragraphs : Step := ⟨.descendant, .name "p", []⟩

theorem kept_crowd (k : Nat) : paragraphs.kept (crowd k).scope = (crowd k).scope.elements :=
  List.filter_eq_self.2 fun p hp => by simp [paragraphs, NameTest.accepts, name_crowd hp]

-- The last one that can be counted stands for all positions from there on.
theorem exists_crowd (k : Nat) (hk : k = 0x7FFFFFFF) :
    ∃ p ∈ (crowd k).scope.elements, (paragraphs.counting (k + 1)).Matches p ∧
      p ∉ (paragraphs.counting (k + 1)).kept (crowd k).scope := by
  have hlast : k - 1 < (crowd k).scope.elements.length := by
    rw [length_crowd]
    omega
  have hmem := List.getElem_mem hlast
  have hreadable : paragraphs.Readable := ⟨⟨by decide, by decide⟩, by simp [paragraphs]⟩
  have hclear : paragraphs.Clear := ⟨⟨by decide, by decide, by decide⟩, by simp [paragraphs]⟩
  have htree := (isTree_crowd k).scope_isTree
  have hkept : (crowd k).scope.elements[k - 1] ∈ paragraphs.kept (crowd k).scope := by
    rw [kept_crowd]
    exact hmem
  have hmatches := (hclear.mem_kept_iff_matches hreadable htree hmem (by simp [paragraphs])).1 hkept
  have hsame : namesakes (crowd k).scope (crowd k).scope.elements[k - 1] =
      (crowd k).scope.elements := by
    rw [namesakes_eq_kept ⟨"p", rfl⟩ rfl hkept, kept_crowd]
  have hcounted : Selector.Token.counted (k + 1) = k := by
    rw [Selector.Token.counted]
    omega
  refine ⟨_, hmem, (hreadable.matches_counting_iff htree (by omega) hmem).2 ⟨hmatches, ?_⟩, ?_⟩
  · rw [hsame, hcounted]
    exact List.getElem?_eq_getElem hlast
  · rw [Step.mem_kept_counting, kept_crowd, List.getElem?_eq_none (by rw [length_crowd]; omega)]
    simp

-- In a node the compiled position stands for what it is meant to stand for.
def Step.CountsKept (s : Step) (n : Nat) (o : Scope) : Prop :=
  ∀ p ∈ o.elements, (s.counting n).Matches p ↔ p ∈ (s.counting n).kept o

-- It does not behind a condition or a star, nor far out. A name with a colon and a value with a line
-- break or a zero character go wrong before anything is counted.
theorem not_counts_kept :
    (read "//li[@class='x'][1]".toList = .ok ⟨[marked.counting 1], .text⟩ ∧
      ¬ marked.CountsKept 1 (.element listPlace)) ∧
    (read "//ul/*[3]".toList =
        .ok ⟨[⟨.descendant, .name "ul", []⟩, Step.counting ⟨.child, .any, []⟩ 3], .text⟩ ∧
      ¬ Step.CountsKept ⟨.child, .any, []⟩ 3 (.element listPlace)) ∧
    (read "//p[2147483648]".toList = .ok ⟨[paragraphs.counting 2147483648], .text⟩ ∧
      ∃ k, ¬ paragraphs.CountsKept 2147483648 (crowd k).scope) ∧
    (read "//a:empty[1]".toList =
        .ok ⟨[Step.counting ⟨.descendant, .name "a:empty", []⟩ 1], .text⟩ ∧
      ¬ Step.CountsKept ⟨.descendant, .name "a:empty", []⟩ 1 (onlyPage "a" []).scope) ∧
    (read "//p[@x='u\nv'][1]".toList =
        .ok ⟨[Step.counting ⟨.descendant, .name "p", [.equal "x" "u\nv"]⟩ 1], .text⟩ ∧
      ¬ Step.CountsKept ⟨.descendant, .name "p", [.equal "x" "u\nv"]⟩ 1
        (onlyPage "p" [{ name := "x", value := "u\nv" }]).scope) ∧
    (read "//p[@x='\x00'][1]".toList =
        .ok ⟨[Step.counting ⟨.descendant, .name "p", [.equal "x" "\x00"]⟩ 1], .text⟩ ∧
      ¬ Step.CountsKept ⟨.descendant, .name "p", [.equal "x" "\x00"]⟩ 1
        (onlyPage "p" [{ name := "x", value := "\uFFFD" }]).scope) := by
  refine ⟨⟨?_, fun h => ?_⟩, ⟨?_, fun h => ?_⟩, ⟨?_, 0x7FFFFFFF, fun h => ?_⟩, ⟨?_, fun h => ?_⟩,
    ⟨?_, fun h => ?_⟩, ⟨?_, fun h => ?_⟩⟩
  · exact read_written (List.cons_ne_nil _ _) (by decide) (by decide +kernel)
  · have hitem : markedItem ∈ (Scope.element listPlace).elements :=
      List.mem_cons_of_mem _ List.mem_cons_self
    exact absurd ((h markedItem hitem).2 List.mem_cons_self) (by decide +kernel)
  · exact read_written (List.cons_ne_nil _ _) (by decide) (by decide +kernel)
  · have hnote : note ∈ (Scope.element listPlace).elements :=
      List.mem_cons_of_mem _ (List.mem_cons_of_mem _ List.mem_cons_self)
    exact absurd ((h note hnote).2 List.mem_cons_self) (by decide +kernel)
  · exact read_written (List.cons_ne_nil _ _) (by decide) (by decide +kernel)
  · obtain ⟨p, hp, hmatches, hkept⟩ := exists_crowd 0x7FFFFFFF rfl
    exact hkept ((h p hp).1 hmatches)
  · exact read_written (List.cons_ne_nil _ _) (by decide) (by decide +kernel)
  · have hlink := (h (onlyPlace "a" []) List.mem_cons_self).1 (by decide +kernel)
    cases hlink
  · exact read_written (List.cons_ne_nil _ _) (by decide) (by decide +kernel)
  · exact absurd ((h (onlyPlace "p" [{ name := "x", value := "u\nv" }]) List.mem_cons_self).2
      List.mem_cons_self) (by decide +kernel)
  · exact read_written (List.cons_ne_nil _ _) (by decide) (by decide +kernel)
  · have hveiled := (h (onlyPlace "p" [{ name := "x", value := "\uFFFD" }]) List.mem_cons_self).1
      (by decide +kernel)
    cases hveiled

end Stepwise.Path
