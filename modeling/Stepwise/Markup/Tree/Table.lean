import Stepwise.Markup.Tree.Body

namespace Stepwise.Markup.Tree.Build

-- What has no place in a table goes before it.
def foster (token : Token) : Build Next := do
  modify fun s => { s with fostering := true }
  let next ← inBody token
  modify fun s => { s with fostering := false }
  return next

def tableParts : List String := ["tbody", "tfoot", "thead"]

def tableLimits : List String := ["table", "template", "html"]

def bodyLimits : List String := ["tbody", "tfoot", "thead", "template", "html"]

def rowLimits : List String := ["tr", "template", "html"]

-- Text in a table is held back until something else comes.
def holdText (token : Token) : Build Next := do
  if ← currentIs ["table", "tbody", "tfoot", "thead", "tr"] then
    modify fun s => { s with returnMode := s.mode, heldText := [] }
    return .again .inTableText token
  else foster token

-- White space alone stays in the table.
def releaseText : Build Unit := do
  let held := (← get).heldText.reverse
  modify fun s => { s with heldText := [] }
  let isText : Token → Bool
    | .text _ => true
    | _ => false
  if held.any isText then
    held.forM fun t => do
      let _ ← foster t
  else
    held.forM fun
      | .blank content => insertText content
      | _ => return

def inTableText (token : Token) : Build Next := do
  match token with
  | .null => return .done
  | .blank _ | .text _ =>
    modify fun s => { s with heldText := token :: s.heldText }
    return .done
  | _ =>
    releaseText
    return .again (← get).returnMode token

def inTable (token : Token) : Build Next := do
  match token with
  | .null | .blank _ | .text _ => holdText token
  | .comment =>
    insertComment
    return .done
  | .startTag tag =>
    let name := tag.name
    if name = "caption" then
      popTo tableLimits
      pushBorder
      insert tag
      setMode .inCaption
      return .done
    else if name = "colgroup" then
      popTo tableLimits
      insert tag
      setMode .inColumnGroup
      return .done
    else if name = "col" then
      popTo tableLimits
      insert (bare "colgroup")
      return .again .inColumnGroup token
    else if tableParts.contains name then
      popTo tableLimits
      insert tag
      setMode .inTableBody
      return .done
    else if name = "td" ∨ name = "th" ∨ name = "tr" then
      popTo tableLimits
      insert (bare "tbody")
      return .again .inTableBody token
    else if name = "table" then
      if ← inScope Scope.table ["table"] then
        popThrough ["table"]
        return .again (← resetMode) token
      return .done
    else if name = "style" ∨ name = "script" ∨ name = "template" then insertMetadata tag
    else if name = "input" then
      if isHiddenInput tag then
        insertVoid tag
        return .done
      else foster token
    else if name = "form" then
      if !(← isOpen "template") && (← get).form.isNone then
        let o ← newHtml tag
        insertNode o.id none
        modify fun s => { s with form := some o.id }
      return .done
    else foster token
  | .endTag name =>
    if name = "table" then
      if ← inScope Scope.table ["table"] then
        popThrough ["table"]
        let _ ← resetMode
      return .done
    else if name = "template" then endTemplate
    else if ["body", "caption", "col", "colgroup", "html", "tbody", "td", "tfoot", "th", "thead",
        "tr"].contains name then return .done
    else foster token
  | .pageEnd => inBody token
  | .doctype _ => return .done

def inCaption (token : Token) : Build Next := do
  let leave (handled : Bool) : Build Next := do
    if ← closeNamed Scope.table "caption" then
      clearToBorder
      if handled then
        setMode .inTable
        return .done
      else return .again .inTable token
    return .done
  match token with
  | .startTag tag =>
    if ["caption", "col", "colgroup", "tbody", "td", "tfoot", "th", "thead", "tr"].contains tag.name then
      leave false
    else inBody token
  | .endTag name =>
    if name = "caption" then leave true
    else if name = "table" then leave false
    else if ["body", "col", "colgroup", "html", "tbody", "td", "tfoot", "th", "thead", "tr"].contains
        name then return .done
    else inBody token
  | _ => inBody token

def inColumnGroup (token : Token) : Build Next := do
  let leave : Build Next := do
    if ← currentIs ["colgroup"] then
      pop
      return .again .inTable token
    return .done
  match token with
  | .blank content =>
    insertText content
    return .done
  | .comment =>
    insertComment
    return .done
  | .startTag tag =>
    if tag.name = "html" then mergeRoot tag
    else if tag.name = "col" then
      insertVoid tag
      return .done
    else if tag.name = "template" then insertMetadata tag
    else leave
  | .endTag name =>
    if name = "colgroup" then
      if ← currentIs ["colgroup"] then
        pop
        setMode .inTable
      return .done
    else if name = "col" then return .done
    else if name = "template" then endTemplate
    else leave
  | .pageEnd => inBody token
  | _ => leave

def inTableBody (token : Token) : Build Next := do
  let leave : Build Next := do
    if ← inScope Scope.table ["table", "tbody", "tfoot"] then
      popTo bodyLimits
      pop
      return .again .inTable token
    return .done
  match token with
  | .startTag tag =>
    if tag.name = "tr" then
      popTo bodyLimits
      insert tag
      setMode .inRow
      return .done
    else if tag.name = "th" ∨ tag.name = "td" then
      popTo bodyLimits
      insert (bare "tr")
      return .again .inRow token
    else if ["caption", "col", "colgroup", "tbody", "tfoot", "thead"].contains tag.name then leave
    else inTable token
  | .endTag name =>
    if tableParts.contains name then
      if ← inScope Scope.table [name] then
        popTo bodyLimits
        pop
        setMode .inTable
      return .done
    else if name = "table" then leave
    else if ["body", "caption", "col", "colgroup", "html", "td", "th", "tr"].contains name then
      return .done
    else inTable token
  | _ => inTable token

def inRow (token : Token) : Build Next := do
  let leave : Build Next := do
    if ← inScope Scope.table ["tr"] then
      popTo rowLimits
      pop
      return .again .inTableBody token
    return .done
  match token with
  | .startTag tag =>
    if tag.name = "th" ∨ tag.name = "td" then
      popTo rowLimits
      insert tag
      setMode .inCell
      pushBorder
      return .done
    else if ["caption", "col", "colgroup", "tbody", "tfoot", "thead", "tr"].contains tag.name then leave
    else inTable token
  | .endTag name =>
    if name = "tr" then
      if ← inScope Scope.table ["tr"] then
        popTo rowLimits
        pop
        setMode .inTableBody
      return .done
    else if name = "table" then leave
    else if tableParts.contains name then
      if ← inScope Scope.table [name] then leave else return .done
    else if ["body", "caption", "col", "colgroup", "html", "td", "th"].contains name then return .done
    else inTable token
  | _ => inTable token

def inCell (token : Token) : Build Next := do
  let leave : Build Next := do
    closeImplied implied
    popThrough ["td", "th"]
    clearToBorder
    return .again .inRow token
  match token with
  | .startTag tag =>
    if ["caption", "col", "colgroup", "tbody", "td", "tfoot", "th", "thead", "tr"].contains tag.name then
      if ← inScope Scope.table ["td", "th"] then leave else return .done
    else inBody token
  | .endTag name =>
    if name = "td" ∨ name = "th" then
      if ← closeNamed Scope.table name then
        clearToBorder
        setMode .inRow
      return .done
    else if name = "table" ∨ name = "tr" ∨ tableParts.contains name then
      if ← inScope Scope.table [name] then leave else return .done
    else if ["body", "caption", "col", "colgroup", "html"].contains name then return .done
    else inBody token
  | _ => inBody token

end Stepwise.Markup.Tree.Build
