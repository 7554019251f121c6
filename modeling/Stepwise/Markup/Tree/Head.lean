import Stepwise.Markup.Tree.Insertion

namespace Stepwise.Markup.Tree.Build

-- The rules up to the start of the body of a page, and those for its metadata.

def insertRoot (tag : StartTag) : Build Unit := do
  let o ← newHtml tag
  modify fun s => { s with forest := s.forest.appendNode Forest.pageId o.id }
  push o

def initial (token : Token) : Build Next := do
  match token with
  | .blank _ => return .done
  | .comment =>
    appendCommentTo Forest.pageId
    return .done
  | .doctype lenient =>
    modify fun s => { s with lenient, mode := .beforeHtml }
    return .done
  | _ =>
    modify fun s => { s with lenient := true }
    return .again .beforeHtml token

-- End tags that stand for the start of what is missing.
def startsMissing (name : String) : Bool := ["head", "body", "html", "br"].contains name

def beforeHtml (token : Token) : Build Next := do
  let missing : Build Next := do
    insertRoot (bare "html")
    return .again .beforeHead token
  match token with
  | .blank _ => return .done
  | .comment =>
    appendCommentTo Forest.pageId
    return .done
  | .startTag tag =>
    if tag.name = "html" then
      insertRoot tag
      setMode .beforeHead
      return .done
    else missing
  | .endTag name => if startsMissing name then missing else return .done
  | _ => missing

-- A second `html` tag only adds attributes to the first.
def mergeRoot (tag : StartTag) : Build Next := do
  if !(← isOpen "template") then
    if let some root ← root? then addAttributes root tag
  return .done

def beforeHead (token : Token) : Build Next := do
  let missing : Build Next := do
    let o ← insertElement (bare "head")
    modify fun s => { s with head := some o }
    return .again .inHead token
  match token with
  | .blank _ => return .done
  | .comment =>
    insertComment
    return .done
  | .startTag tag =>
    if tag.name = "html" then mergeRoot tag
    else if tag.name = "head" then
      let o ← insertElement tag
      modify fun s => { s with head := some o, mode := .inHead }
      return .done
    else missing
  | .endTag name => if startsMissing name then missing else return .done
  | _ => missing

def closeTemplate : Build Unit := do
  closeImplied impliedInTables
  popThrough ["template"]
  clearToBorder
  modify fun s => { s with templateModes := s.templateModes.tail }

def endTemplate : Build Next := do
  if ← isOpen "template" then
    closeTemplate
    let _ ← resetMode
  return .done

-- The tags in `metadata`.
def insertMetadata (tag : StartTag) : Build Next := do
  match tag.name with
  | "title" => insertWithText tag (.escapable "title")
  | "noframes" | "style" => insertWithText tag (.raw tag.name)
  | "script" => insertWithText tag .script
  | "template" =>
    insert tag
    pushBorder
    forbidFrames
    modify fun s => { s with mode := .inTemplate, templateModes := .inTemplate :: s.templateModes }
  | _ => insertVoid tag
  return .done

def inHead (token : Token) : Build Next := do
  let leave : Build Next := do
    pop
    return .again .afterHead token
  match token with
  | .blank content =>
    insertText content
    return .done
  | .comment =>
    insertComment
    return .done
  | .startTag tag =>
    if tag.name = "html" then mergeRoot tag
    else if tag.name = "noscript" then
      insertWithText tag (.raw "noscript")
      return .done
    else if metadata.contains tag.name then insertMetadata tag
    else if tag.name = "head" then return .done
    else leave
  | .endTag name =>
    if name = "head" then
      pop
      setMode .afterHead
      return .done
    else if name = "template" then endTemplate
    else if startsMissing name then leave
    else return .done
  | _ => leave

def afterHead (token : Token) : Build Next := do
  let missing : Build Next := do
    insert (bare "body")
    return .again .inBody token
  match token with
  | .blank content =>
    insertText content
    return .done
  | .comment =>
    insertComment
    return .done
  | .startTag tag =>
    if tag.name = "html" then mergeRoot tag
    else if tag.name = "body" then
      insert tag
      forbidFrames
      setMode .inBody
      return .done
    else if tag.name = "frameset" then
      insert tag
      setMode .inFrameset
      return .done
    else if metadata.contains tag.name then
      -- it goes into the head, which is closed already
      match (← get).head with
      | some head =>
        push head
        let next ← insertMetadata tag
        removeOpen head.id
        return next
      | none => return .done
    else if tag.name = "head" then return .done
    else missing
  | .endTag name =>
    if name = "template" then endTemplate
    else if startsMissing name then missing
    else return .done
  | _ => missing

end Stepwise.Markup.Tree.Build
