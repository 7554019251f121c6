import Stepwise.Markup.Tree.Formatting
import Stepwise.Markup.Tree.Head

namespace Stepwise.Markup.Tree.Build

def isHiddenInput (tag : StartTag) : Bool :=
  tag.attributes.any fun (name, value) =>
    name == "type" && Text.lowerAscii value.toList == "hidden".toList

-- The body, if it is the second element of the stack.
def body? : Build (Option Open) := do
  match (← get).stack.reverse with
  | _ :: o :: _ => return if o.isHtml ["body"] then some o else none
  | _ => return none

-- An item closes the one before it, unless a special element other than these is in between.
def closeItem (names : List String) : Build Unit := do
  let isStop (o : Open) : Bool :=
    o.isHtml names || (o.isHtml special && !o.isHtml ["address", "div", "p"])
  match (← get).stack.find? isStop with
  | some o =>
    if o.isHtml names then
      closeImpliedExcept o.name
      popThrough [o.name]
  | none => return

def enterForeign (space : Space) (tag : StartTag) : Build Unit := do
  let name := if space = .svg then spelled svgNames tag.name else tag.name
  let o ← newElement space name (tag.attributes.map fun (n, v) => foreignAttribute space n v)
  insertNode o.id none
  if !tag.selfClosing then push o

def openBody (tag : StartTag) : Build Next := do
  let name := tag.name
  if name = "html" then mergeRoot tag
  else if metadata.contains name then insertMetadata tag
  else if name = "body" then
    if !(← isOpen "template") then
      if let some body ← body? then
        forbidFrames
        addAttributes body tag
    return .done
  else if name = "frameset" then
    if (← get).framesAllowed then
      if let some body ← body? then
        modify fun s =>
          { s with
            forest := s.forest.detach body.id
            stack := s.stack.drop (s.stack.length - 1) }
        insert tag
        setMode .inFrameset
    return .done
  else if blocks.contains name then
    closeParagraphInScope
    insert tag
    return .done
  else if headings.contains name then
    closeParagraphInScope
    if ← currentIs headings then pop
    insert tag
    return .done
  else if name = "pre" ∨ name = "listing" then
    closeParagraphInScope
    insert tag
    modify fun s => { s with skipsNewline := true, framesAllowed := false }
    return .done
  else if name = "form" then
    let inTemplate ← isOpen "template"
    if (← get).form.isNone || inTemplate then
      closeParagraphInScope
      let o ← insertElement tag
      if !inTemplate then modify fun s => { s with form := some o.id }
    return .done
  else if name = "li" ∨ name = "dd" ∨ name = "dt" then
    forbidFrames
    closeItem (if name = "li" then ["li"] else ["dd", "dt"])
    closeParagraphInScope
    insert tag
    return .done
  else if name = "plaintext" then
    closeParagraphInScope
    insert tag
    modify fun s => { s with content := .plain }
    return .done
  else if name = "button" then
    if ← inScope Scope.default ["button"] then
      closeImplied implied
      popThrough ["button"]
    reopenFormatting
    insert tag
    forbidFrames
    return .done
  else if name = "a" then
    closeLink
    reopenFormatting
    insertFormatting tag
    return .done
  else if formatting.contains name then
    reopenFormatting
    insertFormatting tag
    return .done
  else if name = "nobr" then
    reopenFormatting
    if ← inScope Scope.default ["nobr"] then
      closeFormatting "nobr"
      reopenFormatting
    insertFormatting tag
    return .done
  else if name = "applet" ∨ name = "marquee" ∨ name = "object" then
    reopenFormatting
    insert tag
    pushBorder
    forbidFrames
    return .done
  else if name = "table" then
    if !(← get).lenient then closeParagraphInScope
    insert tag
    forbidFrames
    setMode .inTable
    return .done
  else if ["area", "br", "embed", "img", "image", "input", "keygen", "wbr"].contains name then
    reopenFormatting
    insertVoid (if name = "image" then { tag with name := "img" } else tag)
    if name ≠ "input" ∨ !isHiddenInput tag then forbidFrames
    return .done
  else if ["param", "source", "track"].contains name then
    insertVoid tag
    return .done
  else if name = "hr" then
    closeParagraphInScope
    insertVoid tag
    forbidFrames
    return .done
  else if name = "textarea" then
    insertWithText tag (.escapable "textarea")
    modify fun s => { s with skipsNewline := true, framesAllowed := false }
    return .done
  else if name = "xmp" then
    closeParagraphInScope
    reopenFormatting
    forbidFrames
    insertWithText tag (.raw "xmp")
    return .done
  else if name = "iframe" then
    forbidFrames
    insertWithText tag (.raw "iframe")
    return .done
  else if name = "noembed" ∨ name = "noscript" then
    insertWithText tag (.raw name)
    return .done
  else if name = "select" then
    reopenFormatting
    insert tag
    forbidFrames
    let inTable := [Mode.inTable, .inCaption, .inTableBody, .inRow, .inCell].contains (← get).mode
    setMode (if inTable then .inSelectInTable else .inSelect)
    return .done
  else if name = "option" ∨ name = "optgroup" then
    if ← currentIs ["option"] then pop
    reopenFormatting
    insert tag
    return .done
  else if name = "rb" ∨ name = "rtc" then
    if ← inScope Scope.default ["ruby"] then closeImplied implied
    insert tag
    return .done
  else if name = "rp" ∨ name = "rt" then
    if ← inScope Scope.default ["ruby"] then closeImpliedExcept "rtc"
    insert tag
    return .done
  else if name = "math" then
    reopenFormatting
    enterForeign .math tag
    return .done
  else if name = "svg" then
    reopenFormatting
    enterForeign .svg tag
    return .done
  else if ["caption", "col", "colgroup", "frame", "head", "tbody", "td", "tfoot", "th", "thead",
      "tr"].contains name then return .done
  else
    reopenFormatting
    insert tag
    return .done

def closeForm : Build Unit := do
  if ← isOpen "template" then
    if ← inScope Scope.default ["form"] then
      closeImplied implied
      popThrough ["form"]
  else
    match (← get).form with
    | none => return
    | some form =>
      modify fun s => { s with form := none }
      if within Scope.default (·.id == form) (← get).stack then
        closeImplied implied
        removeOpen form

-- Close an element in scope, and those in it whose end tags may be left out.
def closeNamed (isBorder : Open → Bool) (name : String) : Build Bool := do
  if ← inScope isBorder [name] then
    closeImplied implied
    popThrough [name]
    return true
  return false

-- Close an item in scope, which does not imply its own end.
def closeItemNamed (isBorder : Open → Bool) (name : String) : Build Unit := do
  if ← inScope isBorder [name] then
    closeImpliedExcept name
    popThrough [name]

def closeBody (name : String) (token : Token) : Build Next := do
  if name = "template" then endTemplate
  else if name = "body" then
    if ← inScope Scope.default ["body"] then setMode .afterBody
    return .done
  else if name = "html" then
    if ← inScope Scope.default ["body"] then return .again .afterBody token
    return .done
  else if closedByName.contains name then
    let _ ← closeNamed Scope.default name
    return .done
  else if name = "form" then
    closeForm
    return .done
  else if name = "p" then
    if !(← inScope Scope.button ["p"]) then insert (bare "p")
    closeParagraph
    return .done
  else if name = "li" then
    closeItemNamed Scope.listItem "li"
    return .done
  else if name = "dd" ∨ name = "dt" then
    closeItemNamed Scope.default name
    return .done
  else if headings.contains name then
    if ← inScope Scope.default headings then
      closeImplied implied
      popThrough headings
    return .done
  else if name = "a" ∨ name = "nobr" ∨ formatting.contains name then
    closeFormatting name
    return .done
  else if name = "applet" ∨ name = "marquee" ∨ name = "object" then
    if ← closeNamed Scope.default name then clearToBorder
    return .done
  else if name = "br" then
    -- it stands for a start tag
    reopenFormatting
    insertVoid (bare "br")
    forbidFrames
    return .done
  else
    closeOther name
    return .done

-- A page that ends in a template ends it.
def endInTemplate : Build Next := do
  if ← isOpen "template" then
    popThrough ["template"]
    clearToBorder
    modify fun s => { s with templateModes := s.templateModes.tail }
    return .again (← resetMode) .pageEnd
  return .done

def inBody (token : Token) : Build Next := do
  match token with
  | .blank content =>
    reopenFormatting
    insertText content
    return .done
  | .text content =>
    reopenFormatting
    forbidFrames
    insertText content
    return .done
  | .comment =>
    insertComment
    return .done
  | .startTag tag => openBody tag
  | .endTag name => closeBody name token
  | .pageEnd => if (← get).templateModes.isEmpty then return .done else endInTemplate
  | .null | .doctype _ => return .done

def inText (token : Token) : Build Next := do
  match token with
  | .blank content | .text content =>
    insertText content
    return .done
  | .endTag _ =>
    pop
    modify fun s => { s with mode := s.returnMode, content := .markup }
    return .done
  | .pageEnd =>
    pop
    modify fun s => { s with content := .markup }
    return .again (← get).returnMode token
  | _ => return .done

end Stepwise.Markup.Tree.Build
