import Stepwise.Markup.Tree.State

namespace Stepwise.Markup.Tree.Build

-- Where a new node goes: behind the content of an element, or right before a table, or, where the
-- table has no place, behind the content of the element around it.
inductive Target
  | lastIn (id : Nat)
  | beforeTable (table outside : Nat)

-- The content of a template stands in the fragment below it.
def contentOf (f : Forest) (o : Open) : Nat :=
  if o.isHtml ["template"] then ((f.children o.id)[0]?).getD o.id else o.id

-- Content that has no place in a table goes before the innermost one.
def fosterTarget (f : Forest) : List Open → Target
  | [] => .lastIn Forest.pageId
  | [root] => .lastIn root.id
  | o :: outer :: rest =>
    if o.isHtml ["template"] then .lastIn (contentOf f o)
    else if o.isHtml ["table"] then .beforeTable o.id outer.id
    else fosterTarget f (outer :: rest)

def target (s : State) (override : Option Open) : Target :=
  match override.or s.stack.head? with
  | none => .lastIn Forest.pageId
  | some o =>
    if s.fostering && o.isHtml ["table", "tbody", "tfoot", "thead", "tr"] then
      fosterTarget s.forest s.stack
    else .lastIn (contentOf s.forest o)

def placeNode (f : Forest) (id : Nat) : Target → Forest
  | .lastIn parent => f.appendNode parent id
  | .beforeTable table outside =>
    if (f.parent? table).isSome then f.insertNode table id else f.appendNode outside id

def placeText (f : Forest) (content : String) : Target → Forest
  | .lastIn parent => f.appendText parent content
  | .beforeTable table outside =>
    if (f.parent? table).isSome then f.insertText table content else f.appendText outside content

def insertNode (id : Nat) (override : Option Open) : Build Unit :=
  modify fun s => { s with forest := placeNode s.forest id (target s override) }

def insertText (content : String) : Build Unit :=
  modify fun s => { s with forest := placeText s.forest content (target s none) }

def newNode (kind : NodeKind) : Build Nat := do
  let (id, forest) := (← get).forest.add kind
  modify fun s => { s with forest }
  return id

def newElement (space : Space) (name : String) (attributes : List Attribute) : Build Open := do
  let id ← newNode (.element space name attributes)
  if space = .html ∧ name = "template" then
    let content ← newNode .fragment
    modify fun s => { s with forest := s.forest.appendNode id content }
  return ⟨id, space, name⟩

def plainAttributes (attributes : List (String × String)) : List Attribute :=
  attributes.map fun (name, value) => ⟨name, value, .plain⟩

def newHtml (tag : StartTag) : Build Open := newElement .html tag.name (plainAttributes tag.attributes)

def insertElement (tag : StartTag) : Build Open := do
  let o ← newHtml tag
  insertNode o.id none
  push o
  return o

def insert (tag : StartTag) : Build Unit := do
  let _ ← insertElement tag

-- An element without content.
def insertVoid (tag : StartTag) : Build Unit := do
  let o ← newHtml tag
  insertNode o.id none

def bare (name : String) : StartTag := ⟨name, [], false⟩

def insertComment : Build Unit := do
  let id ← newNode .comment
  insertNode id none

def appendCommentTo (parent : Nat) : Build Unit := do
  let id ← newNode .comment
  modify fun s => { s with forest := s.forest.appendNode parent id }

-- The element around all others.
def root? : Build (Option Open) := return (← get).stack.getLast?

def addAttributes (o : Open) (tag : StartTag) : Build Unit :=
  modify fun s =>
    { s with forest := s.forest.addAttributes o.id (plainAttributes tag.attributes) }

-- Read what follows as the text of a new element.
def insertWithText (tag : StartTag) (content : Content) : Build Unit := do
  insert tag
  modify fun s => { s with returnMode := s.mode, mode := .inText, content }

end Stepwise.Markup.Tree.Build
