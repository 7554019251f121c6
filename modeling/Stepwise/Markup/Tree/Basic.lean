import Stepwise.Markup.Token.Reader
import Stepwise.Markup.Tree.Outer

namespace Stepwise.Markup.Tree

namespace Build

def stepIn (mode : Mode) (token : Token) : Build Next :=
  match mode with
  | .initial => initial token
  | .beforeHtml => beforeHtml token
  | .beforeHead => beforeHead token
  | .inHead => inHead token
  | .afterHead => afterHead token
  | .inBody => inBody token
  | .inText => inText token
  | .inTable => inTable token
  | .inTableText => inTableText token
  | .inCaption => inCaption token
  | .inColumnGroup => inColumnGroup token
  | .inTableBody => inTableBody token
  | .inRow => inRow token
  | .inCell => inCell token
  | .inSelect => inSelect token
  | .inSelectInTable => inSelectInTable token
  | .inTemplate => inTemplate token
  | .afterBody => afterBody token
  | .inFrameset => inFrameset token
  | .afterFrameset => afterFrameset token
  | .afterAfterBody => afterAfterBody token
  | .afterAfterFrameset => afterAfterFrameset token

-- Whether a token is content of a drawing or a formula.
def isForeign (current : Option Open) (token : Token) : Bool :=
  match current with
  | none => false
  | some o =>
    if o.space = .html then false
    else match token with
      | .pageEnd => false
      | .blank _ | .text _ | .null => !(o.isMathText || o.isSvgHtml)
      | .startTag tag =>
        if o.isMathText && !(["mglyph", "malignmark"].contains tag.name) then false
        else if o.isSvgHtml then false
        else !(o.space == .math && o.name == "annotation-xml" && tag.name == "svg")
      | _ => true

-- Html in a drawing or a formula ends it.
def leaveForeign (token : Token) : Build Next := do
  popWhile fun o => !(o.space == .html || o.isMathText || o.isSvgHtml)
  stepIn (← get).mode token

-- The open elements outside the one that an end tag closes, whatever the case of its name; or
-- nothing where html is in between. The outermost element is not looked at.
def closeForeign? (name : String) : List Open → Option (List Open)
  | [] => none
  | [_] => none
  | o :: outer =>
    if o.space = .html then none
    else if Text.lowerAscii o.name.toList = name.toList then some outer
    else closeForeign? name outer

-- An end tag that finds its element outside in html follows the rules of html.
def endForeign (name : String) (token : Token) : Build Next := do
  let s ← get
  match closeForeign? name s.stack with
  | some outer =>
    set { s with stack := outer }
    return .done
  | none =>
    match s.stack.dropWhile (·.space ≠ .html) with
    | _ :: _ :: _ => stepIn s.mode token
    | _ => return .done

def inForeign (token : Token) : Build Next := do
  match token with
  | .null =>
    insertText "\uFFFD"
    return .done
  | .blank content =>
    insertText content
    return .done
  | .text content =>
    forbidFrames
    insertText content
    return .done
  | .comment =>
    insertComment
    return .done
  | .startTag tag =>
    let ends := leavingForeign.contains tag.name || (tag.name == "font" &&
      tag.attributes.any fun a => ["color", "face", "size"].contains a.1)
    if ends then leaveForeign token
    else
      match ← current? with
      | some o => enterForeign o.space tag
      | none => pure ()
      return .done
  | .endTag name =>
    if name = "br" ∨ name = "p" then leaveForeign token else endForeign name token
  | .doctype _ | .pageEnd => return .done

-- Take a token through as many modes as it asks for, at most `fuel`.
def process : (fuel : Nat) → Token → Build Unit
  | 0, _ => return
  | fuel + 1, token => do
    let s ← get
    let next ← if isForeign s.stack.head? token then inForeign token else stepIn s.mode token
    match next with
    | .done => return
    | .again mode token =>
      setMode mode
      process fuel token

-- The line feed right after some start tags does not count.
def dropNewline (token : Token) : Option Token :=
  match token with
  | .blank content =>
    match content.toList with
    | ['\n'] => none
    | '\n' :: rest => some (.blank (String.ofList rest))
    | _ => some token
  | .text content =>
    match content.toList with
    | ['\n'] => none
    | '\n' :: rest => some (.text (String.ofList rest))
    | _ => some token
  | _ => some token

-- A document type counts only in front.
def take (token : Token) : Build Unit := do
  let s ← get
  set { s with skipsNewline := false }
  match if s.skipsNewline then dropNewline token else some token with
  | none => return
  | some (.doctype lenient) =>
    if s.mode = .initial then process 1 (.doctype lenient)
  | some token =>
    -- every mode that hands a token on has closed an element or comes later in a page
    process (8 * (s.stack.length + s.templateModes.length + 8)) token

-- Read a page of at most `fuel` characters.
def readAll : (fuel : Nat) → List Char → Build Unit
  | 0, _ => return
  | fuel + 1, cs => do
    if cs.isEmpty then return
    let s ← get
    let foreign := s.stack.head?.any (·.space ≠ .html)
    let (tokens, rest) := Scan.next s.content foreign cs
    tokens.forM take
    readAll fuel rest

end Build

end Stepwise.Markup.Tree

namespace Stepwise.Markup.Document

-- Every text is a page: what is missing is added and what is wrong is mended.
def read (page : String) : Document :=
  let cs := Scan.normalize page.toList
  let build : Tree.Build Unit := do
    Tree.Build.readAll cs.length cs
    Tree.Build.take .pageEnd
  (build.run {}).2.forest.document

end Stepwise.Markup.Document
