import Stepwise.Markup.Forest
import Stepwise.Markup.Token.Basic
import Stepwise.Markup.Tree.Vocabulary

namespace Stepwise.Markup.Tree

-- Where in a page the tree stands, which decides what a tag does to it.
inductive Mode
  | initial | beforeHtml | beforeHead | inHead | afterHead | inBody | inText | inTable | inTableText
  | inCaption | inColumnGroup | inTableBody | inRow | inCell | inSelect | inSelectInTable
  | inTemplate | afterBody | inFrameset | afterFrameset | afterAfterBody | afterAfterFrameset
deriving DecidableEq

-- An element that is not closed yet.
structure Open where
  id : Nat
  space : Space
  name : String
deriving DecidableEq

structure Formatted where
  element : Open
  tag : StartTag

-- `stack` holds the open elements, the innermost first. `formatted` holds the elements to be
-- opened again, the latest first; nothing stands for a border that they do not cross.
structure State where
  forest : Forest := .empty
  mode : Mode := .initial
  returnMode : Mode := .initial
  stack : List Open := []
  formatted : List (Option Formatted) := []
  templateModes : List Mode := []
  head : Option Open := none
  form : Option Nat := none
  framesAllowed : Bool := true
  fostering : Bool := false
  lenient : Bool := false
  skipsNewline : Bool := false
  content : Content := .markup
  heldText : List Token := []

abbrev Build := StateM State

-- What is left to do with a token: nothing, or to take it again in another mode.
inductive Next
  | done
  | again (mode : Mode) (token : Token)

def Open.isHtml (o : Open) (names : List String) : Bool := o.space == .html && names.contains o.name

def Open.isMathText (o : Open) : Bool :=
  o.space == .math && ["mi", "mo", "mn", "ms", "mtext"].contains o.name

-- Elements of drawings that hold html.
def Open.isSvgHtml (o : Open) : Bool :=
  o.space == .svg && ["foreignObject", "desc", "title"].contains o.name

namespace Scope

def default (o : Open) : Bool :=
  o.isHtml ["applet", "caption", "html", "table", "td", "th", "marquee", "object", "template"] ||
    o.isMathText || o.isSvgHtml

def listItem (o : Open) : Bool := default o || o.isHtml ["ol", "ul"]

def button (o : Open) : Bool := default o || o.isHtml ["button"]

def table (o : Open) : Bool := o.isHtml ["html", "table", "template"]

def select (o : Open) : Bool := !o.isHtml ["optgroup", "option"]

end Scope

-- Whether a wanted element is open inside the innermost border.
def within (isBorder wanted : Open → Bool) : List Open → Bool
  | [] => false
  | o :: rest => wanted o || (!isBorder o && within isBorder wanted rest)

namespace Build

def current? : Build (Option Open) := return (← get).stack.head?

def currentIs (names : List String) : Build Bool := return (← current?).any (·.isHtml names)

def inScope (isBorder : Open → Bool) (names : List String) : Build Bool :=
  return within isBorder (·.isHtml names) (← get).stack

def isOpen (name : String) : Build Bool := return (← get).stack.any (·.isHtml [name])

def push (o : Open) : Build Unit := modify fun s => { s with stack := o :: s.stack }

def pop : Build Unit := modify fun s => { s with stack := s.stack.tail }

def popWhile (p : Open → Bool) : Build Unit := modify fun s => { s with stack := s.stack.dropWhile p }

-- Close elements until one of these is closed.
def popThrough (names : List String) : Build Unit :=
  modify fun s => { s with stack := (s.stack.dropWhile fun o => !o.isHtml names).tail }

-- Close elements until one of these is the innermost.
def popTo (names : List String) : Build Unit := popWhile fun o => !o.isHtml names

def removeOpen (id : Nat) : Build Unit :=
  modify fun s => { s with stack := s.stack.filter (·.id ≠ id) }

def setMode (mode : Mode) : Build Unit := modify fun s => { s with mode }

def forbidFrames : Build Unit := modify fun s => { s with framesAllowed := false }

def closeImplied (names : List String) : Build Unit := popWhile (·.isHtml names)

def closeImpliedExcept (name : String) : Build Unit :=
  popWhile fun o => o.isHtml implied && o.name != name

def closeParagraph : Build Unit := do
  closeImpliedExcept "p"
  popThrough ["p"]

def closeParagraphInScope : Build Unit := do
  if ← inScope Scope.button ["p"] then closeParagraph

def pushBorder : Build Unit := modify fun s => { s with formatted := none :: s.formatted }

def clearToBorder : Build Unit :=
  modify fun s => { s with formatted := (s.formatted.dropWhile Option.isSome).tail }

-- The mode that fits the open elements.
def fittingMode (s : State) : List Open → Mode
  | [] => .inBody
  | o :: rest =>
    let isLast := rest.isEmpty
    if o.space ≠ .html then fittingMode s rest
    else match o.name with
      | "select" =>
        match rest.find? (·.isHtml ["template", "table"]) with
        | some a => if a.name = "table" then .inSelectInTable else .inSelect
        | none => .inSelect
      | "td" | "th" => if isLast then fittingMode s rest else .inCell
      | "tr" => .inRow
      | "tbody" | "thead" | "tfoot" => .inTableBody
      | "caption" => .inCaption
      | "colgroup" => .inColumnGroup
      | "table" => .inTable
      | "template" => s.templateModes.headD .inTemplate
      | "head" => if isLast then fittingMode s rest else .inHead
      | "body" => .inBody
      | "frameset" => .inFrameset
      | "html" => if s.head.isNone then .beforeHead else .afterHead
      | _ => fittingMode s rest

def resetMode : Build Mode := do
  let s ← get
  let mode := fittingMode s s.stack
  setMode mode
  return mode

end Build

end Stepwise.Markup.Tree
