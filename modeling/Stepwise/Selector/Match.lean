import Stepwise.Markup.Place
import Stepwise.Selector.Basic

namespace Stepwise.Selector

open Markup (Place Tag Attribute)

-- Whether `index` is one of the indices. Counting ends at 2^31 - 1.
def Progression.has (p : Progression) (index : Nat) : Bool :=
  let distance : Int := index - p.offset
  if distance ≥ 0x80000000 then false
  else if p.step = 0 then distance = 0
  else distance.tdiv p.step ≥ 0 && p.step * distance.tdiv p.step = distance

def Operator.test (op : Operator) (value actual : List Char) : Bool :=
  match op with
  | equal => actual == value
  | word => !value.isEmpty && (Text.splitAt Text.isAsciiBlank actual).contains value
  | dash => actual == value || (value ++ ['-']).isPrefixOf actual
  | start => !value.isEmpty && value.isPrefixOf actual
  | finish => !value.isEmpty && value.isSuffixOf actual
  | part => !value.isEmpty && Text.contains value actual

def ValueTest.holds (t : ValueTest) (isHtml : Bool) (actual : String) : Bool :=
  let caseCounts := match t.rule with
    | .counts => true
    | .ignored => false
    | .byElement => !isHtml
  if caseCounts then t.op.test t.value.toList actual.toList
  else t.op.test (Text.lowerAscii t.value.toList) (Text.lowerAscii actual.toList)

-- Names of html elements and of their attributes are written in small letters.
def nameOn (tag : Tag) (name : String) : String :=
  if tag.space = .html then String.ofList (Text.lowerAscii name.toList) else name

def attrHolds (tag : Tag) (anySpace : Bool) (name : String) (test : Option ValueTest) : Bool :=
  tag.attributes.any fun a =>
    (anySpace || a.space == .plain) && a.name == nameOn tag name &&
      match test with
      | none => true
      | some t => t.holds (tag.space == .html) a.value

-- The place of an element among its siblings, counted from one.
def indexOf (p : Place) (ofKind fromEnd : Bool) : Nat :=
  let others := if fromEnd then p.later else p.earlier
  (others.filter fun q => !ofKind || q.tag.sameKind p.tag).length + 1

def isEmpty (p : Place) : Bool := !p.children.any fun n => n.isElement || n.isText

-- The elements that stand to the left of a combinator, for an element on its right.
def Combinator.reach (c : Combinator) (p : Place) : List Place :=
  match c with
  | child => p.parent?.toList
  | descendant => p.ancestors
  | next => p.earlier.take 1
  | later => p.earlier

-- The elements among which those of a relative selector are found.
def candidates (p : Place) : List Place :=
  p.descendants ++ p.later.flatMap fun q => q :: q.descendants

mutual

-- `anchor` is the stamp of the element that a relative selector starts from.
def Simple.holds (anchor : Option Nat) (p : Place) : Simple → Bool
  | .universal => true
  | .name n => p.tag.name == nameOn p.tag n
  | .noSpace => false
  | .id value => (p.tag.attributes.find? fun a => a.name == "id").any fun a => a.value == value
  | .className value =>
    p.tag.attributes.any fun a => a.name == "class" && (Text.words a.value.toList).contains value.toList
  | .attr anySpace name test => attrHolds p.tag anySpace name test
  | .root => p.isRoot
  | .empty => isEmpty p
  | .nth ofKind fromEnd indices => indices.has (indexOf p ofKind fromEnd)
  | .only ofKind => indexOf p ofKind false = 1 && indexOf p ofKind true = 1
  | .either alternatives => anyHolds anchor p alternatives
  | .neither alternatives => !anyHolds anchor p alternatives
  | .has alternatives => (candidates p).any fun q => anyHolds (some p.tag.stamp) q alternatives
  | .anchor => anchor == some p.tag.stamp
  | .never => false

def Complex.holds (anchor : Option Nat) (p : Place) : Complex → Bool
  | .compound parts => allHold anchor p parts
  | .joined left combinator parts =>
    allHold anchor p parts && (combinator.reach p).any fun q => left.holds anchor q

def allHold (anchor : Option Nat) (p : Place) : List Simple → Bool
  | [] => true
  | s :: rest => s.holds anchor p && allHold anchor p rest

def anyHolds (anchor : Option Nat) (p : Place) : List Complex → Bool
  | [] => false
  | c :: rest => c.holds anchor p || anyHolds anchor p rest

end

end Stepwise.Selector

namespace Stepwise

def Selector.selects (s : Selector) (p : Markup.Place) : Bool :=
  Selector.anyHolds none p s.alternatives

end Stepwise
