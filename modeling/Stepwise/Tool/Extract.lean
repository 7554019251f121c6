import Stepwise.Markup.Tree.Basic
import Stepwise.Path.Reader
import Stepwise.Pattern.Reader
import Stepwise.Pattern.Search
import Stepwise.Selector.Match
import Stepwise.Selector.Reader
import Stepwise.Tool.Basic

namespace Stepwise.Extract

open Markup (Document Place)

def name : String := "Parser"

-- The texts of an element without the white space around them; those that are empty are left out.
def elementText (p : Place) : String :=
  let texts := (p.texts.map fun t => Text.trim t.toList).filter (· ≠ [])
  String.ofList (List.intercalate [' '] texts)

def select? (page : Document) (s : Selector) : Option Place := page.placesByAge.find? s.selects

def orNull : Option String → Json
  | some s => .str s
  | none => .null

def unknownPrefix : String := "unknown selector prefix"

-- What the readers of selectors and patterns say of a text that they refuse. Their words are their
-- own, and never those for a selector of no known kind.
structure Wording where
  selector : List Char → String
  pattern : List Char → String
  selector_ne : ∀ text, selector text ≠ unknownPrefix
  pattern_ne : ∀ text, pattern text ≠ unknownPrefix

def Wording.plain : Wording where
  selector _ := "Not a selector"
  pattern _ := "Not a pattern, or too large a one"
  selector_ne _ := by decide
  pattern_ne _ := by decide

def readSelector (wording : Wording) (text : List Char) : Except String Selector :=
  match Selector.read? text with
  | some s => .ok s
  | none => .error (wording.selector text)

def takeTarget (target : Path.Target) (p : Place) : Option String :=
  match target with
  | .text => some (elementText p)
  | .attr name => p.tag.attr? name

-- What one selector finds. A path is looked for as the selector that it stands for.
def find (wording : Wording) (page : Document) (raw selector : String) : Except String Json := do
  match SelectorKind.split? selector.toList with
  | some (.css, text) =>
    let s ← readSelector wording text
    return orNull ((select? page s).map elementText)
  | some (.xpath, text) =>
    match Path.read text with
    | .error fault => throw fault.message
    | .ok path =>
      let s ← readSelector wording path.selectorText
      return orNull ((select? page s).bind (takeTarget path.target))
  | some (.regex, text) =>
    match Pattern.read? text with
    | some pattern => return orNull ((pattern.find? raw.toList).map String.ofList)
    | none => throw (wording.pattern text)
  | none => throw unknownPrefix

def findAll (wording : Wording) (page : Document) (raw : String) :
    List (String × Json) → Except ToolError (List (String × Json))
  | [] => .ok []
  | (key, .str selector) :: rest =>
    match find wording page raw selector with
    | .error detail => .error (.selector selector detail)
    | .ok v => do return (key, v) :: (← findAll wording page raw rest)
  | (key, _) :: _ => .error (.invalidArg name ("schema." ++ key) .selectorType)

def result (wording : Wording) (args : Args) (_trace : List Json) : Except ToolError Json := do
  let raw ← args.requireText "raw" name
  let schema ← args.requireObject "schema" name
  return .obj (← findAll wording (Document.read raw) raw schema)

def tool {σ : Type} (wording : Wording := .plain) : Tool σ :=
  .pure name "Extract fields from HTML (args: raw, schema of css:/xpath:/regex: selectors)."
    (result wording)

end Stepwise.Extract
