import Stepwise.Markup.Tree.Insertion

namespace Stepwise.Markup.Tree.Build

def isSettled (s : State) : Option Formatted → Bool
  | none => true
  | some f => s.stack.any (·.id == f.element.id)

def remember (element : Open) (tag : StartTag) : Build Unit :=
  modify fun s => { s with formatted := some ⟨element, tag⟩ :: s.formatted }

def isAbout (id : Nat) (entry : Option Formatted) : Bool := entry.any (·.element.id == id)

def forget (id : Nat) : Build Unit :=
  modify fun s => { s with formatted := s.formatted.eraseP (isAbout id) }

-- Open the formatting elements again that are closed but still in force, the oldest first.
def reopenFormatting : Build Unit := do
  let s ← get
  let lost := s.formatted.takeWhile fun entry => !isSettled s entry
  set { s with formatted := s.formatted.drop lost.length }
  (lost.filterMap id).reverse.forM fun f => do
    let o ← insertElement f.tag
    remember o f.tag

def sameTag (a b : StartTag) : Bool :=
  a.name == b.name && a.attributes.length == b.attributes.length &&
    a.attributes.all b.attributes.contains

-- No more than three equal formatting elements stay in force; the oldest gives way.
def insertFormatting (tag : StartTag) : Build Unit := do
  let s ← get
  let equal := (s.formatted.takeWhile Option.isSome).filterMap fun entry =>
    entry.bind fun f => if sameTag f.tag tag then some f.element.id else none
  if equal.length ≥ 3 then equal.getLast?.forM forget
  let o ← insertElement tag
  remember o tag

-- An end tag closes the innermost element of its name, unless a special element is in between.
def closeOther (name : String) : Build Unit :=
  modify fun s =>
    match s.stack.dropWhile fun o => !o.isHtml [name] && !o.isHtml special with
    | o :: outer => if o.isHtml [name] then { s with stack := outer } else s
    | [] => s

-- Rebuild the elements between a block and a misnested formatting element around it. Of these,
-- the first three that are in force are made anew, each around the one before it; the others go.
-- The result is the outermost of them, the first one made, and those that are open now.
def weave (block : Open) :
    (count : Nat) → (last : Open) → (mark : Option Nat) → List Open →
      Build (Open × Option Nat × List Open)
  | _, last, mark, [] => return (last, mark, [])
  | count, last, mark, node :: rest => do
    match (← get).formatted.find? (isAbout node.id) with
    | some (some f) =>
      if count ≥ 3 then
        forget node.id
        weave block (count + 1) last mark rest
      else
        let o ← newHtml f.tag
        modify fun s =>
          { s with
            formatted := s.formatted.map fun e => if isAbout node.id e then some ⟨o, f.tag⟩ else e
            forest := s.forest.appendNode o.id last.id }
        let mark := if last.id = block.id then some o.id else mark
        let (last, mark, more) ← weave block (count + 1) o mark rest
        return (last, mark, o :: more)
    | _ => weave block (count + 1) last mark rest

-- Put an entry where the entry of a misnested element is, or right behind a newer one.
def moveEntry (old : Nat) (mark : Option Nat) (entry : Formatted) (es : List (Option Formatted)) :
    List (Option Formatted) :=
  match mark with
  | none => es.map fun e => if isAbout old e then some entry else e
  | some id =>
    (es.flatMap fun e => if isAbout id e then [some entry, e] else [e]).eraseP (isAbout old)

-- One round of the repair. The result says whether another round may be needed.
def repairOnce (name : String) : Build Bool := do
  let s ← get
  match (s.formatted.takeWhile Option.isSome).find? fun e => e.any (·.tag.name == name) with
  | some (some f) =>
    let inner := s.stack.takeWhile (·.id ≠ f.element.id)
    match s.stack.dropWhile (·.id ≠ f.element.id) with
    | [] =>
      forget f.element.id
      return false
    | _ :: outer =>
      if !within Scope.default (·.id == f.element.id) s.stack then return false
      let between := (inner.reverse.takeWhile fun o => !o.isHtml special).reverse
      match inner.reverse.dropWhile fun o => !o.isHtml special with
      | [] =>
        modify fun s => { s with stack := outer }
        forget f.element.id
        return false
      | block :: above =>
        let (last, mark, between) ← weave block 0 block none between
        modify fun s => { s with forest := s.forest.detach last.id }
        insertNode last.id outer.head?
        let o ← newHtml f.tag
        modify fun s =>
          { s with
            forest := (s.forest.moveChildren block.id o.id).appendNode block.id o.id
            formatted := moveEntry f.element.id mark ⟨o, f.tag⟩ s.formatted
            stack := above.reverse ++ o :: block :: between ++ outer }
        return true
  | _ =>
    closeOther name
    return false

-- Repairing ends after eight rounds.
def repair (name : String) : (rounds : Nat) → Build Unit
  | 0 => return
  | rounds + 1 => do if ← repairOnce name then repair name rounds

-- Close a formatting element, although it and the elements inside it may overlap.
def closeFormatting (name : String) : Build Unit := do
  let s ← get
  match s.stack with
  | o :: outer =>
    if o.isHtml [name] && !s.formatted.any (isAbout o.id) then set { s with stack := outer }
    else repair name 8
  | [] => repair name 8

-- Links do not nest: a link that is still in force ends where the next one starts.
def closeLink : Build Unit := do
  match ((← get).formatted.takeWhile Option.isSome).find? fun e => e.any (·.element.isHtml ["a"]) with
  | some (some f) =>
    closeFormatting "a"
    forget f.element.id
    removeOpen f.element.id
  | _ => return

end Stepwise.Markup.Tree.Build
