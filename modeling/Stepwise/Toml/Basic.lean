namespace Stepwise.Toml

-- How a table came to be: written in braces and closed, opened by its own heading, passed through by
-- a longer heading, or passed through by a key with dots.
inductive Origin
  | closed
  | headed
  | passed
  | dotted
deriving DecidableEq

-- A value, or a part of the tree that headings build. Of numbers with a fraction and of dates only
-- their kind is kept.
inductive Node
  | text (s : String)
  | integer (z : Int)
  | float
  | moment
  | boolean (b : Bool)
  | array (items : List Node)
  | table (origin : Origin) (members : List (String × Node))
  -- Tables that share one heading in double brackets, the latest first.
  | series (latest : List (String × Node)) (before : List (List (String × Node)))

abbrev Members := List (String × Node)

-- The names in a key or a heading; there is at least one.
structure Key where
  path : List String
  last : String
deriving DecidableEq

def Key.names (k : Key) : List String := k.path ++ [k.last]

-- One line of a document that says something.
inductive Statement
  | heading (key : Key)
  | seriesHeading (key : Key)
  | entry (key : Key) (value : Node)

end Stepwise.Toml
