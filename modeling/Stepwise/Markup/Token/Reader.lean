import Stepwise.Markup.Entity.Reader
import Stepwise.Markup.Token.Basic
import Stepwise.Markup.Token.Doctype

namespace Stepwise.Markup.Scan

def replacement : Char := '\uFFFD'

def visible (c : Char) : Char := if c = '\x00' then replacement else c

-- Line ends are single line feeds, and a mark of the byte order is no part of the page.
def normalize : List Char → List Char
  | '\uFEFF' :: cs => lines cs
  | cs => lines cs
where
  lines : List Char → List Char
    | '\r' :: '\n' :: rest => '\n' :: lines rest
    | '\r' :: rest => '\n' :: lines rest
    | c :: rest => c :: lines rest
    | [] => []

-- Put characters for the references in a text.
def decode (find : List Char → Option Entity.Found) : (fuel : Nat) → List Char → List Char
  | 0, _ => []
  | _, [] => []
  | fuel + 1, c :: rest =>
    if c = '&' then
      match find rest with
      | some f => f.text ++ decode find fuel f.rest
      | none => '&' :: decode find fuel rest
    else visible c :: decode find fuel rest

def decodeText (cs : List Char) : List Char := decode Entity.reference? cs.length cs

def decodeValue (cs : List Char) : List Char := decode Entity.referenceInValue? cs.length cs

-- A name in small letters.
def nameOf (cs : List Char) : String := String.ofList ((Text.lowerAscii cs).map visible)

def endsName (c : Char) : Bool := Text.isAsciiBlank c || c == '/' || c == '>'

def skipBlanks (cs : List Char) : List Char := cs.dropWhile Text.isAsciiBlank

-- The value of an attribute, behind the `=`. A page that ends in it has none.
def readValue? (cs : List Char) : Option (String × List Char) :=
  let value (cs : List Char) := String.ofList (decodeValue cs)
  match skipBlanks cs with
  | [] => none
  | c :: rest =>
    if c = '"' ∨ c = '\'' then
      match rest.dropWhile (· ≠ c) with
      | [] => none
      | _ :: more => some (value (rest.takeWhile (· ≠ c)), more)
    else
      let isIn (c : Char) : Bool := !Text.isAsciiBlank c && c != '>'
      some (value ((c :: rest).takeWhile isIn), (c :: rest).dropWhile isIn)

-- The attributes of a tag up to its `>`, whether a slash stands right before that, and what
-- follows. A page that ends in a tag has no such tag.
def readAttributes? : (fuel : Nat) → List Char → Option (List (String × String) × Bool × List Char)
  | 0, _ => none
  | fuel + 1, cs =>
    match skipBlanks cs with
    | [] => none
    | '>' :: rest => some ([], false, rest)
    | '/' :: '>' :: rest => some ([], true, rest)
    | '/' :: rest => readAttributes? fuel rest
    | c :: rest =>
      let isIn (c : Char) : Bool := !endsName c && c != '='
      let name := nameOf (c :: rest.takeWhile isIn)
      let withValue := match skipBlanks (rest.dropWhile isIn) with
        | '=' :: more => readValue? more
        | more => some ("", more)
      match withValue with
      | none => none
      | some (value, more) =>
        match readAttributes? fuel more with
        | none => none
        | some (others, closing, more) => some ((name, value) :: others, closing, more)

-- Of attributes of one name the first counts.
def firstOfEachName : List (String × String) → List (String × String)
  | [] => []
  | a :: rest => a :: (firstOfEachName rest).filter fun b => b.1 != a.1

-- A tag from its name on.
def readTag (isEnd : Bool) (cs : List Char) : List Token × List Char :=
  let name := nameOf (cs.takeWhile fun c => !endsName c)
  match readAttributes? (cs.length + 1) (cs.dropWhile fun c => !endsName c) with
  | none => ([], [])
  | some (attributes, selfClosing, rest) =>
    (if isEnd then [.endTag name] else [.startTag ⟨name, firstOfEachName attributes, selfClosing⟩],
      rest)

-- What follows the end of a comment, of which so many dashes are read last.
def pastComment : (dashes : Nat) → List Char → List Char
  | _, [] => []
  | dashes, '-' :: rest => pastComment (dashes + 1) rest
  | dashes, '>' :: rest => if dashes ≥ 2 then rest else pastComment 0 rest
  | dashes, '!' :: '>' :: rest => if dashes ≥ 2 then rest else pastComment 0 rest
  | _, _ :: rest => pastComment 0 rest

-- A comment may close right after it opens.
def readComment : List Char → List Char
  | '>' :: rest => rest
  | '-' :: '>' :: rest => rest
  | cs => pastComment 0 cs

-- Whether a run that begins with `c` goes on with `d`.
def goesOn (c d : Char) : Bool := Text.isAsciiBlank d == Text.isAsciiBlank c && d != '\x00'

-- Text in runs that are all white space or hold none.
def runs (cs : List Char) : List Token :=
  match cs with
  | [] => []
  | '\x00' :: rest => .null :: runs rest
  | c :: rest =>
    let run := String.ofList (c :: rest.takeWhile (goesOn c))
    have := (List.dropWhile_sublist (goesOn c) (l := rest)).length_le
    (if Text.isAsciiBlank c then .blank run else .text run) :: runs (rest.dropWhile (goesOn c))
termination_by cs.length
decreasing_by all_goals simp only [List.length_cons]; omega

def readCharacterData : List Char → List Char × List Char
  | ']' :: ']' :: '>' :: rest => ([], rest)
  | c :: rest =>
    let (text, more) := readCharacterData rest
    (c :: text, more)
  | [] => ([], [])

def comment (cs : List Char) : List Token × List Char := ([.comment], Doctype.pastEnd cs)

-- What stands behind `<!`.
def readDeclaration (foreign : Bool) (cs : List Char) : List Token × List Char :=
  match cs with
  | '-' :: '-' :: rest => ([.comment], readComment rest)
  | _ =>
    if Doctype.hasKeyword "doctype" cs then
      let (d, rest) := Doctype.read (cs.drop 7)
      ([.doctype d.isLenient], rest)
    else if foreign && "[CDATA[".toList.isPrefixOf cs then
      let (text, rest) := readCharacterData (cs.drop 7)
      (runs text, rest)
    else comment cs

-- What stands behind `<`.
def readMarkup (foreign : Bool) (cs : List Char) : List Token × List Char :=
  match cs with
  | '!' :: rest => readDeclaration foreign rest
  | '?' :: rest => comment rest
  | '/' :: rest =>
    match rest with
    | [] => ([.text "</"], [])
    | '>' :: more => ([], more)
    | c :: _ => if c.isAlpha then readTag true rest else comment rest
  | c :: _ => if c.isAlpha then readTag false cs else ([.text "<"], cs)
  | [] => ([.text "<"], [])

-- Whether the end tag of an element begins here.
def isEndTag (name : String) (cs : List Char) : Bool :=
  ['<', '/'].isPrefixOf cs && Doctype.hasKeyword name (cs.drop 2) &&
    ((cs.drop (2 + name.length)).head?).any endsName

-- The text up to an end tag.
def splitAtEndTag (name : String) : List Char → List Char × List Char
  | [] => ([], [])
  | c :: rest =>
    if isEndTag name (c :: rest) then ([], c :: rest)
    else
      let (text, more) := splitAtEndTag name rest
      (c :: text, more)

-- How much of a script stands in comments: none, a comment, or a script in a comment. The number
-- counts the dashes that are read last.
inductive ScriptState
  | bare
  | commented (dashes : Nat)
  | nested (dashes : Nat)

def ScriptState.step (state : ScriptState) (c : Char) : ScriptState :=
  let next (dashes : Nat) (make : Nat → ScriptState) : ScriptState :=
    if c = '-' then make (dashes + 1) else if c = '>' ∧ dashes ≥ 2 then .bare else make 0
  match state with
  | .bare => .bare
  | .commented dashes => next dashes .commented
  | .nested dashes => next dashes .nested

-- The characters that change the state as one, and the state behind them.
def ScriptState.jump? (state : ScriptState) (cs : List Char) : Option (Nat × ScriptState) :=
  let atWord (word : String) : Bool :=
    Doctype.hasKeyword word cs && ((cs.drop word.length).head?).any endsName
  match state with
  | .bare => if "<!--".toList.isPrefixOf cs then some (4, .commented 2) else none
  | .commented _ => if atWord "<script" then some (7, .nested 0) else none
  | .nested _ => if atWord "</script" then some (8, .commented 0) else none

def ScriptState.canEnd : ScriptState → Bool
  | .nested _ => false
  | _ => true

-- The text of a script up to its end tag. `held` characters more keep the state.
def splitScript : ScriptState → (held : Nat) → List Char → List Char × List Char
  | _, _, [] => ([], [])
  | state, held + 1, c :: rest =>
    let (text, more) := splitScript state held rest
    (c :: text, more)
  | state, 0, c :: rest =>
    if state.canEnd && isEndTag "script" (c :: rest) then ([], c :: rest)
    else
      let (held, next) := (state.jump? (c :: rest)).getD (1, state.step c)
      let (text, more) := splitScript next (held - 1) rest
      (c :: text, more)

-- A text without markup, or the end tag after it.
def textOrEnd (text : List Char) (rest : List Char) : List Token × List Char :=
  if text.isEmpty then readMarkup false (rest.drop 1) else ([.text (String.ofList text)], rest)

-- Some words at the start of a page that is not empty, and what follows them.
def next (content : Content) (foreign : Bool) (cs : List Char) : List Token × List Char :=
  match content with
  | .plain => ([.text (String.ofList (cs.map visible))], [])
  | .raw name =>
    let (text, rest) := splitAtEndTag name cs
    textOrEnd (text.map visible) rest
  | .escapable name =>
    let (text, rest) := splitAtEndTag name cs
    textOrEnd (decodeText text) rest
  | .script =>
    let (text, rest) := splitScript .bare 0 cs
    textOrEnd (text.map visible) rest
  | .markup =>
    match cs with
    | [] => ([], [])
    | '<' :: rest => readMarkup foreign rest
    | '&' :: rest =>
      match Entity.reference? rest with
      | some f => (runs f.text, f.rest)
      | none => ([.text "&"], rest)
    | _ =>
      let isIn (c : Char) : Bool := c != '<' && c != '&'
      (runs (cs.takeWhile isIn), cs.dropWhile isIn)

end Stepwise.Markup.Scan
