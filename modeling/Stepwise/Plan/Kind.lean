namespace Stepwise

-- The five kinds of steps, each carried out by the tool of a fixed name.
inductive StepKind
  | search | fetch | parse | compute | store
deriving DecidableEq

namespace StepKind

def all : List StepKind := [search, fetch, parse, compute, store]

def toolName : StepKind → String
  | search => "Searcher"
  | fetch => "Fetcher"
  | parse => "Parser"
  | compute => "Compute"
  | store => "Store"

def name : StepKind → String
  | search => "search"
  | fetch => "fetch"
  | parse => "parse"
  | compute => "compute"
  | store => "store"

def ofToolName? (s : String) : Option StepKind := all.find? fun k => k.toolName == s

end StepKind

-- What a compute step can do with its inputs.
inductive Operation
  | normalizePrices | marginCalculation | filter | sort | merge
deriving DecidableEq

namespace Operation

def all : List Operation := [normalizePrices, marginCalculation, filter, sort, merge]

def name : Operation → String
  | normalizePrices => "normalize_prices"
  | marginCalculation => "margin_calculation"
  | filter => "filter"
  | sort => "sort"
  | merge => "merge"

def ofName? (s : String) : Option Operation := all.find? fun op => op.name == s

end Operation

inductive StoreAction
  | write | read
deriving DecidableEq

namespace StoreAction

def ofName? (s : String) : Option StoreAction :=
  if s = "write" then some write else if s = "read" then some read else none

end StoreAction

-- How many links a search step may ask for.
def allowedLinks (k : Int) : Bool := 1 ≤ k && k ≤ 20

-- The languages in which a parse step names what it looks for.
inductive SelectorKind
  | css | xpath | regex
deriving DecidableEq

namespace SelectorKind

def mark : SelectorKind → List Char
  | css => ['c', 's', 's', ':']
  | xpath => ['x', 'p', 'a', 't', 'h', ':']
  | regex => ['r', 'e', 'g', 'e', 'x', ':']

-- The language of a selector and its text without the mark.
def split? (selector : List Char) : Option (SelectorKind × List Char) :=
  if css.mark.isPrefixOf selector then some (css, selector.drop css.mark.length)
  else if xpath.mark.isPrefixOf selector then some (xpath, selector.drop xpath.mark.length)
  else if regex.mark.isPrefixOf selector then some (regex, selector.drop regex.mark.length)
  else none

-- A selector names its language and goes on with some text on the same line.
def isSelector (s : String) : Bool :=
  match split? s.toList with
  | some (_, text) => !text.isEmpty && !text.contains '\n'
  | none => false

end SelectorKind

end Stepwise
