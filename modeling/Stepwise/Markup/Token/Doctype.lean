import Stepwise.Text.Blank

namespace Stepwise.Markup

-- A document type. `broken` says that it is not written as it should be.
structure Doctype where
  name : List Char := []
  publicId : Option (List Char) := none
  systemId : Option (List Char) := none
  broken : Bool := false

namespace Doctype

def skipBlanks (cs : List Char) : List Char := cs.dropWhile Text.isAsciiBlank

-- What follows the next `>`.
def pastEnd (cs : List Char) : List Char := (cs.dropWhile (· ≠ '>')).drop 1

-- Public identifiers of old languages: these, and those that begin so.
def lenientIds : List String := ["-/w3c/dtd html 4.0 transitional/en", "html"]

def lenientStarts : List String :=
  ["-//ietf//dtd html", "-//w3c//dtd html 3", "-//w3c//dtd html 4.0 frameset//",
   "-//w3c//dtd html 4.0 transitional//", "-//w3c//dtd html experimental", "-//w3c//dtd w3 html//",
   "-//w3o//dtd w3 html"]

-- Public identifiers that are lenient only without a system identifier.
def unaddressedStarts : List String :=
  ["-//w3c//dtd html 4.01 frameset//", "-//w3c//dtd html 4.01 transitional//"]

def isLenient (d : Doctype) : Bool :=
  let startsWithAny (ps : List String) (id : List Char) : Bool :=
    ps.any fun p => p.toList.isPrefixOf id
  d.broken || d.name ≠ "html".toList ||
    match d.publicId.map Text.lowerAscii with
    | none => false
    | some id =>
      lenientIds.any (·.toList == id) || startsWithAny lenientStarts id ||
        (d.systemId.isNone && startsWithAny unaddressedStarts id)

-- The text up to a quote. A `>` breaks it off, and so does the end of the page.
def readId (quote : Char) (cs : List Char) : List Char × Bool × List Char :=
  let id := cs.takeWhile fun c => c ≠ quote && c ≠ '>'
  let rest := cs.dropWhile fun c => c ≠ quote && c ≠ '>'
  (id, rest.head? == some quote, rest.drop 1)

def isQuote (c : Char) : Bool := c == '"' || c == '\''

-- What may stand before the closing `>`: a system identifier, whose absence is no fault.
def readSystemId (d : Doctype) (needed : Bool) (cs : List Char) : Doctype × List Char :=
  match skipBlanks cs with
  | [] => ({ d with broken := true }, [])
  | c :: rest =>
    if isQuote c then
      let (id, closed, more) := readId c rest
      let d := { d with systemId := some id, broken := !closed || (skipBlanks more).isEmpty }
      (d, if closed then pastEnd more else more)
    else if c = '>' then ({ d with broken := needed }, rest)
    else ({ d with broken := true }, pastEnd (c :: rest))

def readPublicId (d : Doctype) (cs : List Char) : Doctype × List Char :=
  match skipBlanks cs with
  | [] => ({ d with broken := true }, [])
  | c :: rest =>
    if isQuote c then
      let (id, closed, more) := readId c rest
      let d := { d with publicId := some id }
      if closed then readSystemId d false more else ({ d with broken := true }, more)
    else ({ d with broken := true }, pastEnd (c :: rest))

def hasKeyword (word : String) (cs : List Char) : Bool :=
  Text.lowerAscii (cs.take word.length) == word.toList

-- What follows the word `doctype`, up to and with the closing `>`.
def read (cs : List Char) : Doctype × List Char :=
  let isInName (c : Char) : Bool := !Text.isAsciiBlank c && c != '>'
  let cs := skipBlanks cs
  let d : Doctype := { name := Text.lowerAscii (cs.takeWhile isInName) }
  let more := skipBlanks (cs.dropWhile isInName)
  match more with
  | [] => ({ d with broken := true }, [])
  | '>' :: rest => (d, rest)
  | _ =>
    if hasKeyword "public" more then readPublicId d (more.drop 6)
    else if hasKeyword "system" more then readSystemId d true (more.drop 6)
    else ({ d with broken := true }, pastEnd more)

end Doctype

end Stepwise.Markup
