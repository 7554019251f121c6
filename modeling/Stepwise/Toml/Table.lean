import Stepwise.Toml.Basic

namespace Stepwise.Toml

namespace Members

-- Replace the member of a name, or put it at the end.
def put (name : String) (value : Node) : Members → Members
  | [] => [(name, value)]
  | m :: rest => if m.1 = name then (name, value) :: rest else m :: put name value rest

end Members

-- A key with dots may pass only through tables that have no heading and no braces of their own.
def Origin.letsDotsPass : Origin → Bool
  | .passed | .dotted => true
  | .closed | .headed => false

-- Change the table at the end of a path. Tables that are missing on the way are made; `dots` says
-- that the path belongs to a key and not to a heading. Of a series the latest table is meant.
def within (dots : Bool) (change : Origin → Members → Option Members) :
    List String → Origin → Members → Option Members
  | [], origin, ms => change origin ms
  | name :: path, _, ms =>
    match ms.lookup name with
    | none =>
      let origin : Origin := if dots then .dotted else .passed
      (within dots change path origin []).map fun inner => ms ++ [(name, .table origin inner)]
    | some (.table .closed _) => none
    | some (.table origin inner) =>
      if dots && !origin.letsDotsPass then none
      else (within dots change path origin inner).map fun inner =>
        Members.put name (.table origin inner) ms
    | some (.series latest before) =>
      (within dots change path .headed latest).map fun latest =>
        Members.put name (.series latest before) ms
    | some _ => none

-- A name is given once. What a key with dots reaches must be a table made by dots.
def addLast (path : List String) (last : String) (value : Node) (origin : Origin) (ms : Members) :
    Option Members :=
  if (origin = .dotted) = (path = []) then none
  else match ms.lookup last with
    | some _ => none
    | none => some (ms ++ [(last, value)])

def addEntry (key : Key) (value : Node) (origin : Origin) (ms : Members) : Option Members :=
  within true (addLast key.path key.last value) key.path origin ms

-- A table is opened once, though longer headings may have passed through it before.
def openTable (last : String) (_ : Origin) (ms : Members) : Option Members :=
  match ms.lookup last with
  | none => some (ms ++ [(last, .table .headed [])])
  | some (.table .passed inner) => some (Members.put last (.table .headed inner) ms)
  | some _ => none

def openNext (last : String) (_ : Origin) (ms : Members) : Option Members :=
  match ms.lookup last with
  | none => some (ms ++ [(last, .series [] [])])
  | some (.series latest before) => some (Members.put last (.series [] (latest :: before)) ms)
  | some _ => none

-- A document as far as it has been read: its tree, and the path of the latest heading.
structure Draft where
  root : Members
  current : List String

def Draft.add (d : Draft) : Statement → Option Draft
  | .heading key =>
    (within false (openTable key.last) key.path .headed d.root).map (⟨·, key.names⟩)
  | .seriesHeading key =>
    (within false (openNext key.last) key.path .headed d.root).map (⟨·, key.names⟩)
  | .entry key value =>
    (within false (addEntry key value) d.current .headed d.root).map (⟨·, d.current⟩)

def Draft.addAll (d : Draft) : List Statement → Option Draft
  | [] => some d
  | s :: rest => (d.add s).bind fun d => d.addAll rest

-- The tree that statements build, if none of them contradicts an earlier one.
def ofStatements? (ss : List Statement) : Option Members := (Draft.addAll ⟨[], []⟩ ss).map Draft.root

-- The table that pairs in braces build.
def ofPairs? (pairs : List (Key × Node)) : Option Members :=
  pairs.foldlM (fun ms pair => addEntry pair.1 pair.2 .closed ms) []

end Stepwise.Toml
