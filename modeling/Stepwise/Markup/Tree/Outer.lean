import Stepwise.Markup.Tree.Table

namespace Stepwise.Markup.Tree.Build

-- The rules for lists of choices, templates, pages of frames, and what follows a page.

def leaveSelect (token : Token) : Build Next := do
  popThrough ["select"]
  return .again (← resetMode) token

def inSelect (token : Token) : Build Next := do
  let close : Build Next := do
    if ← inScope Scope.select ["select"] then
      popThrough ["select"]
      let _ ← resetMode
    return .done
  match token with
  | .blank content | .text content =>
    insertText content
    return .done
  | .comment =>
    insertComment
    return .done
  | .startTag tag =>
    let name := tag.name
    if name = "html" then mergeRoot tag
    else if name = "option" then
      if ← currentIs ["option"] then pop
      insert tag
      return .done
    else if name = "optgroup" ∨ name = "hr" then
      if ← currentIs ["option"] then pop
      if ← currentIs ["optgroup"] then pop
      if name = "hr" then insertVoid tag else insert tag
      return .done
    else if name = "select" then close
    else if name = "input" ∨ name = "keygen" ∨ name = "textarea" then
      if ← inScope Scope.select ["select"] then leaveSelect token else return .done
    else if name = "script" ∨ name = "template" then insertMetadata tag
    else return .done
  | .endTag name =>
    if name = "optgroup" then
      match (← get).stack with
      | o :: outer :: _ => if o.isHtml ["option"] && outer.isHtml ["optgroup"] then pop
      | _ => pure ()
      if ← currentIs ["optgroup"] then pop
      return .done
    else if name = "option" then
      if ← currentIs ["option"] then pop
      return .done
    else if name = "select" then close
    else if name = "template" then endTemplate
    else return .done
  | .pageEnd => inBody token
  | .null | .doctype _ => return .done

def inSelectInTable (token : Token) : Build Next := do
  let parts := ["caption", "table", "tbody", "tfoot", "thead", "tr", "td", "th"]
  match token with
  | .startTag tag => if parts.contains tag.name then leaveSelect token else inSelect token
  | .endTag name =>
    if parts.contains name then
      if ← inScope Scope.table [name] then leaveSelect token else return .done
    else inSelect token
  | _ => inSelect token

-- The first tag in a template tells what kind of content it has.
def inTemplate (token : Token) : Build Next := do
  let goOn (mode : Mode) : Build Next := do
    modify fun s => { s with templateModes := mode :: s.templateModes.tail }
    return .again mode token
  match token with
  | .blank _ | .text _ | .comment => inBody token
  | .startTag tag =>
    if metadata.contains tag.name then insertMetadata tag
    else if ["caption", "colgroup", "tbody", "tfoot", "thead"].contains tag.name then goOn .inTable
    else if tag.name = "col" then goOn .inColumnGroup
    else if tag.name = "tr" then goOn .inTableBody
    else if tag.name = "td" ∨ tag.name = "th" then goOn .inRow
    else goOn .inBody
  | .endTag name => if name = "template" then endTemplate else return .done
  | .pageEnd => endInTemplate
  | .null | .doctype _ => return .done

def afterBody (token : Token) : Build Next := do
  match token with
  | .blank _ => inBody token
  | .comment =>
    if let some root ← root? then appendCommentTo root.id
    return .done
  | .startTag tag => if tag.name = "html" then mergeRoot tag else return .again .inBody token
  | .endTag name =>
    if name = "html" then
      setMode .afterAfterBody
      return .done
    else return .again .inBody token
  | .pageEnd => return .done
  | _ => return .again .inBody token

def inFrameset (token : Token) : Build Next := do
  match token with
  | .blank content =>
    insertText content
    return .done
  | .comment =>
    insertComment
    return .done
  | .startTag tag =>
    if tag.name = "html" then mergeRoot tag
    else if tag.name = "frameset" then
      insert tag
      return .done
    else if tag.name = "frame" then
      insertVoid tag
      return .done
    else if tag.name = "noframes" then insertMetadata tag
    else return .done
  | .endTag name =>
    if name = "frameset" ∧ (← get).stack.length > 1 then
      pop
      if !(← currentIs ["frameset"]) then setMode .afterFrameset
    return .done
  | _ => return .done

def afterFrameset (token : Token) : Build Next := do
  match token with
  | .blank content =>
    insertText content
    return .done
  | .comment =>
    insertComment
    return .done
  | .startTag tag =>
    if tag.name = "html" then mergeRoot tag
    else if tag.name = "noframes" then insertMetadata tag
    else return .done
  | .endTag name =>
    if name = "html" then setMode .afterAfterFrameset
    return .done
  | _ => return .done

def afterAfterBody (token : Token) : Build Next := do
  match token with
  | .blank _ => inBody token
  | .comment =>
    appendCommentTo Forest.pageId
    return .done
  | .startTag tag => if tag.name = "html" then mergeRoot tag else return .again .inBody token
  | .pageEnd | .doctype _ => return .done
  | _ => return .again .inBody token

def afterAfterFrameset (token : Token) : Build Next := do
  match token with
  | .blank _ => inBody token
  | .comment =>
    appendCommentTo Forest.pageId
    return .done
  | .startTag tag =>
    if tag.name = "html" then mergeRoot tag
    else if tag.name = "noframes" then insertMetadata tag
    else return .done
  | _ => return .done

end Stepwise.Markup.Tree.Build
