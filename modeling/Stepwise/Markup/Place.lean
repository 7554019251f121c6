import Stepwise.Markup.Basic

namespace Stepwise.Markup

-- An element together with where it stands: its siblings on both sides, the nearest first, and
-- the places of the elements around it. An element at the top has no element around it; it may
-- stand in the page itself, in a fragment or in a loose tree.
inductive Place
  | top (inPage : Bool) (before : List Node) (tag : Tag) (children after : List Node)
  | inside (parent : Place) (before : List Node) (tag : Tag) (children after : List Node)

namespace Place

def tag : Place → Tag
  | top _ _ tag _ _ => tag
  | inside _ _ tag _ _ => tag

def children : Place → List Node
  | top _ _ _ children _ => children
  | inside _ _ _ children _ => children

def before : Place → List Node
  | top _ before _ _ _ => before
  | inside _ before _ _ _ => before

def after : Place → List Node
  | top _ _ _ _ after => after
  | inside _ _ _ _ after => after

def node (p : Place) : Node := .element p.tag p.children

def isRoot : Place → Bool
  | top inPage .. => inPage
  | inside .. => false

def parent? : Place → Option Place
  | top .. => none
  | inside parent .. => some parent

-- The elements around this one, from the inside out.
def ancestors : Place → List Place
  | top .. => []
  | inside parent .. => parent :: parent.ancestors

-- The place that a sibling of this element has.
def beside : Place → List Node → Tag → List Node → List Node → Place
  | top inPage .. => top inPage
  | inside parent .. => inside parent

def leftward (make : List Node → Tag → List Node → List Node → Place) :
    List Node → (after : List Node) → List Place
  | [], _ => []
  | .element tag children :: before, after =>
    make before tag children after :: leftward make before (.element tag children :: after)
  | n :: before, after => leftward make before (n :: after)

def rightward (make : List Node → Tag → List Node → List Node → Place) :
    (before : List Node) → List Node → List Place
  | _, [] => []
  | before, .element tag children :: after =>
    make before tag children after :: rightward make (.element tag children :: before) after
  | before, n :: after => rightward make (n :: before) after

-- The elements before this one under the same parent, the nearest first.
def earlier (p : Place) : List Place := leftward p.beside p.before (p.node :: p.after)

-- The elements after this one under the same parent, the nearest first.
def later (p : Place) : List Place := rightward p.beside (p.node :: p.before) p.after

mutual

-- The places of a node and of everything in it, in document order.
def ofNode (make : List Node → Tag → List Node → List Node → Place) (before after : List Node) :
    Node → List Place
  | .element tag children =>
    make before tag children after :: ofNodes (inside (make before tag children after)) [] children
  | .fragment children => ofNodes (top false) [] children
  | .text _ => []
  | .comment => []

def ofNodes (make : List Node → Tag → List Node → List Node → Place) (before : List Node) :
    List Node → List Place
  | [] => []
  | n :: after => ofNode make before after n ++ ofNodes make (n :: before) after

end

-- The elements inside this one, in document order.
def descendants (p : Place) : List Place := ofNodes (inside p) [] p.children

def texts (p : Place) : List String := Node.textsOf p.children

end Place

namespace Document

-- All elements that stand under something, in document order; the roots of loose trees do not.
def places (d : Document) : List Place :=
  Place.ofNodes (.top true) [] d.children ++
    d.loose.flatMap fun
      | .element tag children => (Place.top false [] tag children []).descendants
      | _ => []

-- The same elements, the oldest first.
def placesByAge (d : Document) : List Place :=
  d.places.mergeSort fun a b => a.tag.stamp ≤ b.tag.stamp

end Document

end Stepwise.Markup
