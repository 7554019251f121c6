import Stepwise.Settings.Basic
import Stepwise.Text.Blank
import Stepwise.Tool.Basic

namespace Stepwise.Search

def name : String := "Searcher"

def link (base query : String) (i : Nat) : Json :=
  .obj [("query", .str query), ("url", .str (base ++ "/" ++ toString i))]

-- As many links as asked for, numbered from zero.
def result (settings : SearchSettings) (args : Args) : Except ToolError Json := do
  let query ← args.requireText "query" name
  let count ← args.require "top_k" name
  match count.toInt64? with
  | some k =>
    if allowedLinks k then
      let base := String.ofList (Text.dropEndWhile (· == '/') settings.baseUrl.toList)
      return .arr ((List.range k.toNat).map (link base query))
    else throw (.invalidArg name "top_k" .linkCount)
  | none => throw (.invalidArg name "top_k" .linkCount)

def tool {σ : Type} (settings : SearchSettings) : Tool σ :=
  .pure name "Return result links for a query (args: query, top_k)." fun args _ => result settings args

end Stepwise.Search
