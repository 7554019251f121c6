import Stepwise.Markup.Basic

namespace Stepwise.Markup

-- What a node of a growing page is, apart from its content.
inductive NodeKind
  | page
  | element (space : Space) (name : String) (attributes : List Attribute)
  | fragment
  | text (content : String)
  | comment

structure Cell where
  kind : NodeKind
  parent : Option Nat := none
  children : Array Nat := #[]

-- A page while it grows. Nodes are known by the order in which they are made; the first one is
-- the page itself. A node is in at most one place and may be moved.
structure Forest where
  cells : Array Cell

namespace Forest

def pageId : Nat := 0

def empty : Forest := ⟨#[{ kind := .page }]⟩

def add (f : Forest) (kind : NodeKind) : Nat × Forest :=
  (f.cells.size, ⟨f.cells.push { kind }⟩)

def kind? (f : Forest) (id : Nat) : Option NodeKind := f.cells[id]?.map Cell.kind

def parent? (f : Forest) (id : Nat) : Option Nat := f.cells[id]?.bind Cell.parent

def children (f : Forest) (id : Nat) : Array Nat := (f.cells[id]?.map Cell.children).getD #[]

def update (f : Forest) (id : Nat) (change : Cell → Cell) : Forest := ⟨f.cells.modify id change⟩

-- Take a node from its place; what is in it stays in it.
def detach (f : Forest) (id : Nat) : Forest :=
  match f.parent? id with
  | none => f
  | some parent =>
    (f.update parent fun c => { c with children := c.children.erase id }).update id
      fun c => { c with parent := none }

def appendNode (f : Forest) (parent id : Nat) : Forest :=
  ((f.detach id).update parent fun c => { c with children := c.children.push id }).update id
    fun c => { c with parent := some parent }

-- A node goes right before another one, which has to have a place.
def insertNode (f : Forest) (sibling id : Nat) : Forest :=
  let f := f.detach id
  match f.parent? sibling with
  | none => f
  | some parent =>
    let put (c : Cell) : Cell :=
      let i := (c.children.idxOf? sibling).getD c.children.size
      { c with children := (c.children.extract 0 i).push id ++ c.children.extract i c.children.size }
    (f.update parent put).update id fun c => { c with parent := some parent }

-- Text goes on in the text node before it, if there is one.
def extendText (f : Forest) (id : Nat) (content : String) : Option Forest :=
  match f.kind? id with
  | some (.text _) =>
    some (f.update id fun c =>
      { c with kind := match c.kind with
          | .text start => .text (start ++ content)
          | k => k })
  | _ => none

def appendText (f : Forest) (parent : Nat) (content : String) : Forest :=
  match (f.children parent).back?.bind (f.extendText · content) with
  | some f => f
  | none =>
    let (id, f) := f.add (.text content)
    f.appendNode parent id

def insertText (f : Forest) (sibling : Nat) (content : String) : Forest :=
  match f.parent? sibling with
  | none => f
  | some parent =>
    let siblings := f.children parent
    let before := (siblings.idxOf? sibling).bind fun i => if i = 0 then none else siblings[i - 1]?
    match before.bind (f.extendText · content) with
    | some f => f
    | none =>
      let (id, f) := f.add (.text content)
      f.insertNode sibling id

def moveChildren (f : Forest) (source target : Nat) : Forest :=
  (f.children source).foldl (fun f id => f.appendNode target id) f

-- Attributes whose names an element has already are not added.
def addAttributes (f : Forest) (id : Nat) (more : List Attribute) : Forest :=
  f.update id fun c =>
    { c with kind := match c.kind with
        | .element space name attributes =>
          .element space name (attributes ++ more.filter fun a =>
            !attributes.any fun b => b.name == a.name && b.space == a.space)
        | k => k }

-- The tree below a node; no tree is deeper than there are nodes.
def tree (f : Forest) : (fuel : Nat) → Nat → Node
  | 0, _ => .comment
  | fuel + 1, id =>
    let children := (f.children id).toList.map (f.tree fuel)
    match f.kind? id with
    | some (.element space name attributes) => .element ⟨id, space, name, attributes⟩ children
    | some .fragment => .fragment children
    | some (.text content) => .text content
    | _ => .comment

def isLoose (f : Forest) (id : Nat) : Bool :=
  (f.parent? id).isNone &&
    match f.kind? id with
    | some (.element ..) => true
    | _ => false

def document (f : Forest) : Document where
  children := (f.children pageId).toList.map (f.tree f.cells.size)
  loose := ((List.range f.cells.size).filter f.isLoose).map (f.tree f.cells.size)

end Forest

end Stepwise.Markup
