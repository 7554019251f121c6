import Stepwise.Markup.Place

namespace Stepwise.Markup

-- An element has each of its attributes once.
def Tag.Distinct (t : Tag) : Prop := (t.attributes.map fun a => (a.space, a.name)).Nodup

instance (t : Tag) : Decidable t.Distinct := List.nodupDecidable _

-- A node of a tree of elements, all of one vocabulary.
inductive Node.IsTree (space : Space) : Node → Prop
  | element {tag : Tag} {children : List Node} (hspace : tag.space = space)
    (hattributes : tag.Distinct) (hchildren : ∀ n ∈ children, IsTree space n) :
    IsTree space (.element tag children)
  | text {content : String} : IsTree space (.text content)
  | comment : IsTree space .comment

@[simp] theorem Node.isTree_element_iff {space : Space} {tag : Tag} {children : List Node} :
    (Node.element tag children).IsTree space ↔
      tag.space = space ∧ tag.Distinct ∧ ∀ n ∈ children, n.IsTree space := by
  constructor
  · rintro ⟨hspace, hattributes, hchildren⟩
    exact ⟨hspace, hattributes, hchildren⟩
  · rintro ⟨hspace, hattributes, hchildren⟩
    exact .element hspace hattributes hchildren

@[simp] theorem Node.isTree_text {space : Space} {content : String} :
    (Node.text content).IsTree space := .text

structure Document.IsTree (space : Space) (d : Document) : Prop where
  children : ∀ n ∈ d.children, n.IsTree space
  loose : d.loose = []

-- What elements stand in: the page or another element.
inductive Scope
  | page (nodes : List Node)
  | element (p : Place)

namespace Scope

def nodes : Scope → List Node
  | page nodes => nodes
  | element p => p.children

def make : Scope → List Node → Tag → List Node → List Node → Place
  | page _ => .top true
  | element p => .inside p

-- The elements right in it, in document order.
def elements (o : Scope) : List Place := Place.rightward o.make [] o.nodes

-- All elements in it, in document order.
def below (o : Scope) : List Place := Place.ofNodes o.make [] o.nodes

def IsTree (space : Space) (o : Scope) : Prop := ∀ n ∈ o.nodes, n.IsTree space

-- An element in it is right in it or right in another element in it.
inductive Holds (o : Scope) : Place → Prop
  | first {p : Place} (h : p ∈ o.elements) : Holds o p
  | next {p q : Place} (h : Holds o q) (hp : p ∈ (element q).elements) : Holds o p

end Scope

variable {space : Space} {o : Scope} {p q : Place} {ns : List Node}

namespace Place

variable {before nodes : List Node} {make : List Node → Tag → List Node → List Node → Place}

-- An element that stands to the right of `before` divides the siblings.
theorem exists_of_mem_rightward (h : p ∈ rightward make before nodes) :
    ∃ left tag children right, p = make left tag children right ∧
      before.reverse ++ nodes = left.reverse ++ .element tag children :: right ∧
      before.length ≤ left.length := by
  induction nodes generalizing before with
  | nil => cases h
  | cons n nodes ih =>
    have hskip (h : p ∈ rightward make (n :: before) nodes) :
        ∃ left tag children right, p = make left tag children right ∧
          before.reverse ++ n :: nodes = left.reverse ++ .element tag children :: right ∧
          before.length ≤ left.length := by
      obtain ⟨left, tag, children, right, hp, hnodes, hlength⟩ := ih h
      rw [List.length_cons] at hlength
      exact ⟨left, tag, children, right, hp, by simpa using hnodes, by omega⟩
    cases n with
    | element tag children =>
      rcases List.mem_cons.1 h with rfl | h
      · exact ⟨before, tag, children, nodes, rfl, rfl, Nat.le_refl _⟩
      · exact hskip h
    | fragment children => exact hskip h
    | text content => exact hskip h
    | comment => exact hskip h

theorem exists_of_mem_leftward {after : List Node} (h : p ∈ leftward make before after) :
    ∃ left tag children right, p = make left tag children right ∧ left.length < before.length := by
  induction before generalizing after with
  | nil => cases h
  | cons n before ih =>
    have hskip (h : p ∈ leftward make before (n :: after)) :
        ∃ left tag children right, p = make left tag children right ∧
          left.length < (n :: before).length := by
      obtain ⟨left, tag, children, right, hp, hlength⟩ := ih h
      exact ⟨left, tag, children, right, hp, Nat.lt_succ_of_lt hlength⟩
    cases n with
    | element tag children =>
      rcases List.mem_cons.1 h with rfl | h
      · exact ⟨before, tag, children, after, rfl, Nat.lt_succ_self _⟩
      · exact hskip h
    | fragment children => exact hskip h
    | text content => exact hskip h
    | comment => exact hskip h

-- Siblings are listed from the left; those on the left of a node are its earlier ones turned round.
theorem rightward_append (before after : List Node) :
    rightward make [] (before.reverse ++ after) =
      (leftward make before after).reverse ++ rightward make before after := by
  induction before generalizing after with
  | nil => simp [leftward]
  | cons n before ih =>
    have hsplit : (n :: before).reverse ++ after = before.reverse ++ n :: after := by simp
    rw [hsplit, ih]
    cases n with
    | element tag children => simp [leftward, rightward]
    | fragment children => simp [leftward, rightward]
    | text content => simp [leftward, rightward]
    | comment => simp [leftward, rightward]

-- In document order an element comes before what is in it.
theorem ofNodes_eq (hnodes : ∀ n ∈ nodes, n.IsTree space)
    (hmake : ∀ left tag children right, (make left tag children right).children = children) :
    ofNodes make before nodes =
      (rightward make before nodes).flatMap fun q => q :: (Scope.element q).below := by
  induction nodes generalizing before with
  | nil => rfl
  | cons n nodes ih =>
    rw [List.forall_mem_cons] at hnodes
    rw [ofNodes, ih hnodes.2]
    cases hnodes.1 with
    | @element tag children =>
      rw [rightward, List.flatMap_cons, ofNode, Scope.below, Scope.nodes, hmake]
      rfl
    | text => rfl
    | comment => rfl

end Place

namespace Scope

-- An element that stands in `o` among its siblings.
theorem exists_of_mem_elements (h : p ∈ o.elements) :
    ∃ left tag children right, p = o.make left tag children right ∧
      o.nodes = left.reverse ++ .element tag children :: right := by
  obtain ⟨left, tag, children, right, hp, hnodes, -⟩ := Place.exists_of_mem_rightward h
  exact ⟨left, tag, children, right, hp, hnodes⟩

theorem children_make (o : Scope) (left : List Node) (tag : Tag) (children right : List Node) :
    (o.make left tag children right).children = children := by
  cases o <;> rfl

theorem before_make (o : Scope) (left : List Node) (tag : Tag) (children right : List Node) :
    (o.make left tag children right).before = left := by
  cases o <;> rfl

theorem node_mem_nodes (h : p ∈ o.elements) : p.node ∈ o.nodes := by
  obtain ⟨left, tag, children, right, rfl, hnodes⟩ := exists_of_mem_elements h
  rw [hnodes]
  cases o <;> simp [make, Place.node, Place.tag, Place.children]

-- The siblings of an element are those before it, it itself and those after it.
theorem elements_eq (h : p ∈ o.elements) :
    o.elements = p.earlier.reverse ++ p :: p.later ∧ p ∉ p.earlier ∧ p ∉ p.later := by
  obtain ⟨left, tag, children, right, hp, hnodes⟩ := exists_of_mem_elements h
  have hearlier : p.earlier = Place.leftward o.make left (.element tag children :: right) := by
    rw [hp]
    cases o <;> rfl
  have hlater : p.later = Place.rightward o.make (.element tag children :: left) right := by
    rw [hp]
    cases o <;> rfl
  have hbefore : p.before = left := by rw [hp, before_make]
  refine ⟨?_, fun hmem => ?_, fun hmem => ?_⟩
  · rw [hearlier, hlater, elements, hnodes, Place.rightward_append, hp]
    rfl
  · rw [hearlier] at hmem
    obtain ⟨left', tag', children', right', hp', hlength⟩ := Place.exists_of_mem_leftward hmem
    have hsame : p.before = left' := by rw [hp', before_make]
    rw [← hbefore, hsame] at hlength
    omega
  · rw [hlater] at hmem
    obtain ⟨left', tag', children', right', hp', -, hlength⟩ := Place.exists_of_mem_rightward hmem
    have hsame : p.before = left' := by rw [hp', before_make]
    rw [← hsame, hbefore, List.length_cons] at hlength
    omega

-- The elements of a tree are those of its vocabulary, with trees in them.
theorem IsTree.element (ho : o.IsTree space) (h : p ∈ o.elements) :
    p.tag.space = space ∧ p.tag.Distinct ∧ (Scope.element p).IsTree space := by
  cases ho p.node (node_mem_nodes h) with
  | element hspace hattributes hchildren => exact ⟨hspace, hattributes, hchildren⟩

theorem below_eq (ho : o.IsTree space) :
    o.below = o.elements.flatMap fun q => q :: (element q).below :=
  Place.ofNodes_eq ho o.children_make

theorem mem_below_iff (ho : o.IsTree space) :
    p ∈ o.below ↔ p ∈ o.elements ∨ ∃ q ∈ o.elements, p ∈ (element q).below := by
  rw [below_eq ho, List.mem_flatMap]
  simp only [List.mem_cons]
  constructor
  · rintro ⟨q, hq, rfl | hp⟩
    · exact .inl hq
    · exact .inr ⟨q, hq, hp⟩
  · rintro (hp | ⟨q, hq, hp⟩)
    · exact ⟨p, hp, .inl rfl⟩
    · exact ⟨q, hq, .inr hp⟩

theorem sizeOf_element_lt (h : q ∈ o.elements) :
    sizeOf (element q).nodes < sizeOf o.nodes := by
  have hmem := List.sizeOf_lt_of_mem (node_mem_nodes h)
  have hnode : sizeOf (element q).nodes < sizeOf q.node := by
    simp only [Place.node, nodes, Node.element.sizeOf_spec]
    omega
  omega

namespace Holds

theorem trans (hq : o.Holds q) (h : (element q).Holds p) : o.Holds p := by
  induction h with
  | first h => exact .next hq h
  | next _ hp ih => exact .next ih hp

-- What holds of the elements right in a tree holds of all elements in it.
theorem element (ho : o.IsTree space) (h : o.Holds p) :
    p.tag.space = space ∧ p.tag.Distinct ∧ (Scope.element p).IsTree space := by
  induction h with
  | first h => exact ho.element h
  | next _ hp ih => exact ih.2.2.element hp

end Holds

theorem below_trans (ho : o.IsTree space) (hq : q ∈ o.below) (hp : p ∈ (element q).below) :
    p ∈ o.below := by
  induction hsize : sizeOf o.nodes using Nat.strongRecOn generalizing o with
  | ind n ih =>
    subst hsize
    rcases (mem_below_iff ho).1 hq with hq | ⟨r, hr, hq⟩
    · exact (mem_below_iff ho).2 (.inr ⟨q, hq, hp⟩)
    · have hmem := ih _ (sizeOf_element_lt hr) (ho.element hr).2.2 hq rfl
      exact (mem_below_iff ho).2 (.inr ⟨r, hr, hmem⟩)

theorem mem_below_iff_holds (ho : o.IsTree space) : p ∈ o.below ↔ o.Holds p := by
  constructor
  · intro h
    induction hsize : sizeOf o.nodes using Nat.strongRecOn generalizing o with
    | ind n ih =>
      subst hsize
      rcases (mem_below_iff ho).1 h with hp | ⟨q, hq, hp⟩
      · exact .first hp
      · exact .trans (.first hq) (ih _ (sizeOf_element_lt hq) (ho.element hq).2.2 hp rfl)
  · intro h
    induction h with
    | first hp => exact (mem_below_iff ho).2 (.inl hp)
    | next hq hp ih =>
      exact below_trans ho ih ((mem_below_iff (hq.element ho).2.2).2 (.inl hp))

-- The element that a scope is, if it is one.
def place? : Scope → Option Place
  | page _ => none
  | element p => some p

theorem parent?_of_mem_elements (h : p ∈ o.elements) : p.parent? = o.place? := by
  obtain ⟨left, tag, children, right, rfl, -⟩ := exists_of_mem_elements h
  cases o <;> rfl

theorem ancestors_of_mem_elements (h : p ∈ o.elements) :
    p.ancestors = match o with
      | page _ => []
      | element q => q :: q.ancestors := by
  obtain ⟨left, tag, children, right, rfl, -⟩ := exists_of_mem_elements h
  cases o <;> rfl

-- The elements around an element of the page are those of the page that it is in.
theorem mem_ancestors_iff (h : (page ns).Holds p) :
    q ∈ p.ancestors ↔ (page ns).Holds q ∧ (element q).Holds p := by
  constructor
  · intro hq
    induction h with
    | first h =>
      rw [ancestors_of_mem_elements h] at hq
      cases hq
    | next hr hp ih =>
      rw [ancestors_of_mem_elements hp] at hq
      rcases List.mem_cons.1 hq with rfl | hq
      · exact ⟨hr, .first hp⟩
      · exact ⟨(ih hq).1, .next (ih hq).2 hp⟩
  · rintro ⟨-, hp⟩
    clear h
    induction hp with
    | first hp =>
      rw [ancestors_of_mem_elements hp]
      exact List.mem_cons_self
    | next _ hp ih =>
      rw [ancestors_of_mem_elements hp]
      exact List.mem_cons_of_mem _ ih

-- The parent of an element of the page is the element that it is right in.
theorem parent?_eq_some_iff (h : (page ns).Holds p) :
    p.parent? = some q ↔ (page ns).Holds q ∧ p ∈ (element q).elements := by
  constructor
  · intro hparent
    cases h with
    | first hp =>
      rw [parent?_of_mem_elements hp] at hparent
      cases hparent
    | next hq hp =>
      rw [parent?_of_mem_elements hp] at hparent
      cases hparent
      exact ⟨hq, hp⟩
  · rintro ⟨-, hp⟩
    exact parent?_of_mem_elements hp

end Scope

namespace Document

def scope (d : Document) : Scope := .page d.children

theorem IsTree.places_eq {d : Document} (h : d.IsTree space) : d.places = d.scope.below := by
  rw [places, h.loose]
  simp [scope, Scope.below, Scope.make, Scope.nodes]

theorem IsTree.scope_isTree {d : Document} (h : d.IsTree space) : d.scope.IsTree space := h.children

theorem IsTree.mem_places_iff {d : Document} (h : d.IsTree space) :
    p ∈ d.places ↔ d.scope.Holds p := by
  rw [h.places_eq, Scope.mem_below_iff_holds h.scope_isTree]

end Document

end Stepwise.Markup
