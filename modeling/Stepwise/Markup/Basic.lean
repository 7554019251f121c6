import Stepwise.Text.Blank

namespace Stepwise.Markup

-- The vocabulary that an element belongs to.
inductive Space
  | html | svg | math
deriving DecidableEq

-- The vocabulary that an attribute belongs to; `plain` is the element's own.
inductive AttributeSpace
  | plain | link | xml | declaration
deriving DecidableEq

structure Attribute where
  name : String
  value : String
  space : AttributeSpace := .plain
deriving DecidableEq

-- An element without its content. The stamp tells its age: elements are numbered as they are made.
structure Tag where
  stamp : Nat
  space : Space
  name : String
  attributes : List Attribute
deriving DecidableEq

-- The content of a template stands in a fragment, which is no element.
inductive Node
  | element (tag : Tag) (children : List Node)
  | fragment (children : List Node)
  | text (content : String)
  | comment

-- A page, and the trees that were made on the way but are no part of it.
structure Document where
  children : List Node
  loose : List Node

namespace Tag

def sameKind (a b : Tag) : Bool := a.name == b.name && a.space == b.space

def attr? (t : Tag) (name : String) : Option String :=
  (t.attributes.find? fun a => a.space == .plain && a.name == name).map Attribute.value

end Tag

namespace Node

def isText : Node → Bool
  | text _ => true
  | _ => false

def isElement : Node → Bool
  | element .. => true
  | _ => false

mutual

-- The texts inside a node, in order.
def texts : Node → List String
  | element _ children => textsOf children
  | fragment children => textsOf children
  | text content => [content]
  | comment => []

def textsOf : List Node → List String
  | [] => []
  | n :: rest => n.texts ++ textsOf rest

end

end Node

end Stepwise.Markup
