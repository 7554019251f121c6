import Stepwise.Tool.Compute
import Stepwise.Tool.Extract
import Stepwise.Tool.Fetch
import Stepwise.Tool.Keep
import Stepwise.Tool.Registry
import Stepwise.Tool.Search

namespace Stepwise

-- The tools that carry out the five kinds of steps.
def builtinTools {ν : Type} (settings : Settings) (network : Network ν)
    (wording : Extract.Wording := .plain) : List (String × Tool (World ν)) :=
  [(Search.name, Search.tool settings.searcher),
   (Fetch.name, Fetch.tool settings.fetcher network),
   (Extract.name, Extract.tool wording),
   (Compute.name, Compute.tool),
   (Keep.name, Keep.tool)]

-- The sealed registry of these tools.
def builtinRegistry {ν : Type} (settings : Settings) (network : Network ν)
    (wording : Extract.Wording := .plain) : Registry (Tool (World ν)) :=
  (Registry.empty.registerAll (builtinTools settings network wording)).1.close

end Stepwise
