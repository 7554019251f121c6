import Stepwise.Plan.Basic
import Stepwise.Settings.Basic

namespace Stepwise

-- The fixed plan for a goal: search for it, fetch a page, and take the page's heading.
def templateSteps (settings : PlannerSettings) (goal : String) : List Step :=
  [⟨"search", "Searcher", .ofList [("query", .str goal), ("top_k", .ofNat settings.topK)]⟩,
   ⟨"fetch", "Fetcher", .ofList [("url", .str settings.fetchUrl)]⟩,
   ⟨"parse", "Parser", .ofList
     [("raw", (Pointer.mk 1 "content").toJson), ("schema", .obj [("title", .str "css:h1")])]⟩]

def Plan.ofGoal (settings : PlannerSettings) (goal : String) : Except PlanError Plan :=
  Plan.ofSteps (templateSteps settings goal)

end Stepwise
