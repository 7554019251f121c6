import Stepwise.Json.Basic
import Stepwise.Decimal.Text
import Stepwise.Text.Utf8

namespace Stepwise.Json

-- What can be wrong with a text that should hold one JSON value.
inductive SyntaxCause
  | eofInValue
  | eofInList
  | eofInObject
  | eofInString
  | expectedValue
  | expectedColon
  | expectedListEnd
  | expectedObjectEnd
  | trailingComma
  | trailingCharacters
  | keyNotString
  | expectedIdent
  | invalidNumber
  | numberOutOfRange
  | invalidEscape
  | unfinishedSurrogate
  | loneSurrogate
  | controlCharacter
  | tooDeep
deriving DecidableEq

def SyntaxCause.message : SyntaxCause → String
  | eofInValue => "EOF while parsing a value"
  | eofInList => "EOF while parsing a list"
  | eofInObject => "EOF while parsing an object"
  | eofInString => "EOF while parsing a string"
  | expectedValue => "expected value"
  | expectedColon => "expected `:`"
  | expectedListEnd => "expected `,` or `]`"
  | expectedObjectEnd => "expected `,` or `\x7d`"
  | trailingComma => "trailing comma"
  | trailingCharacters => "trailing characters"
  | keyNotString => "key must be a string"
  | expectedIdent => "expected ident"
  | invalidNumber => "invalid number"
  | numberOutOfRange => "number out of range"
  | invalidEscape => "invalid escape"
  | unfinishedSurrogate => "unexpected end of hex escape"
  | loneSurrogate => "lone leading surrogate in hex escape"
  | controlCharacter => "control character (\\u0000-\\u001F) found while parsing a string"
  | tooDeep => "recursion limit exceeded"

-- A cause, with what was left to read and how many bytes of that count as read.
structure SyntaxStop where
  cause : SyntaxCause
  rest : List Char
  past : Nat
deriving DecidableEq

-- A cause with its place: the line, and the bytes read on that line.
structure SyntaxFault where
  cause : SyntaxCause
  line : Nat
  column : Nat
deriving DecidableEq

def SyntaxFault.message (f : SyntaxFault) : String :=
  f.cause.message ++ " at line " ++ toString f.line ++ " column " ++ toString f.column

abbrev Reading (α : Type) := Except SyntaxStop α

-- Stop at the next character; at the end of the text there is none to count.
def stopAt {α : Type} (cause : SyntaxCause) (rest : List Char) : Reading α :=
  .error ⟨cause, rest, if rest.isEmpty then 0 else 1⟩

def isBlank (c : Char) : Bool := c == ' ' || c == '\n' || c == '\t' || c == '\r'

def skipBlanks (cs : List Char) : List Char := cs.dropWhile isBlank

-- The letters of `null`, `true` or `false` after the first.
def readWord : List Char → List Char → Reading (List Char)
  | [], cs => .ok cs
  | _ :: _, [] => stopAt .eofInValue []
  | w :: ws, c :: cs => if c = w then readWord ws cs else stopAt .expectedIdent (c :: cs)

def hexValue? (c : Char) : Option Nat :=
  if c.isDigit then some (c.toNat - '0'.toNat)
  else if 'a' ≤ c ∧ c ≤ 'f' then some (c.toNat - 'a'.toNat + 10)
  else if 'A' ≤ c ∧ c ≤ 'F' then some (c.toNat - 'A'.toNat + 10)
  else none

-- Four hexadecimal digits. They are taken as four bytes before they are looked at, so a bad one is
-- reported at the fourth byte.
def readUnit (cs : List Char) : Reading (Nat × List Char) :=
  if Text.byteCount (cs.take 4) < 4 then stopAt .eofInString []
  else match cs with
    | a :: b :: c :: d :: rest =>
      match hexValue? a, hexValue? b, hexValue? c, hexValue? d with
      | some a, some b, some c, some d => .ok (((a * 16 + b) * 16 + c) * 16 + d, rest)
      | _, _, _, _ => .error ⟨.invalidEscape, cs, 4⟩
    | _ => .error ⟨.invalidEscape, cs, 4⟩

-- The character of a `\u` escape, whose digits begin `cs`; a pair of surrogates is one character.
def readUnicode (cs : List Char) : Reading (Char × List Char) := do
  let (high, rest) ← readUnit cs
  if 0xDC00 ≤ high ∧ high ≤ 0xDFFF then .error ⟨.loneSurrogate, rest, 0⟩
  else if 0xD800 ≤ high ∧ high ≤ 0xDBFF then
    match rest with
    | '\\' :: 'u' :: more => do
      let (low, after) ← readUnit more
      if low < 0xDC00 ∨ 0xDFFF < low then .error ⟨.loneSurrogate, after, 0⟩
      else .ok (Char.ofNat (0x10000 + (high - 0xD800) * 0x400 + (low - 0xDC00)), after)
    | '\\' :: more => if more.isEmpty then stopAt .eofInString [] else stopAt .unfinishedSurrogate more
    | [] => stopAt .eofInString []
    | other => stopAt .unfinishedSurrogate other
  else .ok (Char.ofNat high, rest)

def simpleEscape? (c : Char) : Option Char :=
  if c = '"' ∨ c = '\\' ∨ c = '/' then some c
  else if c = 'b' then some '\x08'
  else if c = 'f' then some '\x0c'
  else if c = 'n' then some '\n'
  else if c = 'r' then some '\r'
  else if c = 't' then some '\t'
  else none

-- The rest of a string after its opening quote. Each turn reads at least one character.
def readString : (fuel : Nat) → (sofar : List Char) → List Char → Reading (String × List Char)
  | 0, _, cs => stopAt .eofInString cs
  | _ + 1, _, [] => stopAt .eofInString []
  | fuel + 1, sofar, c :: cs =>
    if c = '"' then .ok (String.ofList sofar.reverse, cs)
    else if c = '\\' then
      match cs with
      | [] => stopAt .eofInString []
      | 'u' :: digits => do
        let (char, rest) ← readUnicode digits
        readString fuel (char :: sofar) rest
      | e :: rest =>
        match simpleEscape? e with
        | some char => readString fuel (char :: sofar) rest
        | none => stopAt .invalidEscape (e :: rest)
    else if c.toNat < 0x20 then stopAt .controlCharacter (c :: cs)
    else readString fuel (c :: sofar) cs

def powerOfTen (n : Nat) : Binary64 := (Binary64.ofDecimal? false 1 n).getD .largest

-- Scale by a power of ten with one rounding; far below the range the division is done in steps.
def scaleTen : (steps : Nat) → Binary64 → Int → Option Binary64
  | steps, x, exponent =>
    if exponent.natAbs ≤ 308 then
      if 0 ≤ exponent then x.mul? (powerOfTen exponent.natAbs) else x.div? (powerOfTen exponent.natAbs)
    else if x.magnitude = 0 then some x
    else if 0 ≤ exponent then none
    else match steps with
      | 0 => some .zero
      | steps + 1 => (x.div? (powerOfTen 308)).bind fun y => scaleTen steps y (exponent + 308)

-- A float literal: its digits are rounded to a double, and that is scaled.
def floatOf (negative : Bool) (digits : Nat) (exponent : Int) : Option Binary64 :=
  (scaleTen 4 (.ofInt digits) exponent).map fun x => { x with negative := negative }

-- Digits are kept as long as the number fits 64 bits; the rest are only counted.
def takeDigits : (kept : Nat) → List Char → Nat × List Char
  | kept, [] => (kept, [])
  | kept, c :: cs =>
    if c.isDigit ∧ kept * 10 + (c.toNat - '0'.toNat) < 0x10000000000000000 then
      takeDigits (kept * 10 + (c.toNat - '0'.toNat)) cs
    else (kept, c :: cs)

-- Out of range is reported at the last character read.
def finish (negative : Bool) (digits : Nat) (exponent : Int) (rest : List Char) :
    Reading (Number × List Char) :=
  match floatOf negative digits exponent with
  | some x => .ok (.float x, rest)
  | none => .error ⟨.numberOutOfRange, rest, 0⟩

-- The digits of an exponent, after its sign.
def readScale (negative down : Bool) (digits : Nat) (start : Int) (cs : List Char) :
    Reading (Number × List Char) :=
  let figures := cs.takeWhile Char.isDigit
  let rest := cs.dropWhile Char.isDigit
  let size := Decimal.digitsValue figures
  if figures.isEmpty then
    if cs.isEmpty then stopAt .eofInValue [] else stopAt .invalidNumber cs
  else if size < 0x80000000 then finish negative digits (if down then start - size else start + size) rest
  else if digits ≠ 0 ∧ !down then
    -- Reported at the digit that makes the exponent too large.
    .error ⟨.numberOutOfRange, figures.drop (fitting figures) ++ rest, 1⟩
  else .ok (.float { Binary64.zero with negative := negative }, rest)
where
  -- How many leading digits keep the exponent within 31 bits.
  fitting (figures : List Char) : Nat :=
    ((List.range (figures.length + 1)).filter fun n =>
      Decimal.digitsValue (figures.take n) < 0x80000000).length - 1

-- After the exponent mark.
def readExponent (negative : Bool) (digits : Nat) (start : Int) (cs : List Char) :
    Reading (Number × List Char) :=
  let (down, body) := Decimal.splitSign cs
  readScale negative down digits start body

-- After the decimal point.
def readFraction (negative : Bool) (whole : Nat) (dropped : Nat) (cs : List Char) :
    Reading (Number × List Char) :=
  let figures := cs.takeWhile Char.isDigit
  let rest := cs.dropWhile Char.isDigit
  let (digits, surplus) := takeDigits whole figures
  let exponent : Int := dropped - ((figures.length - surplus.length : Nat) : Int)
  if figures.isEmpty then
    if cs.isEmpty then stopAt .eofInValue [] else stopAt .invalidNumber cs
  else match rest with
    | c :: more => if c = 'e' ∨ c = 'E' then readExponent negative digits exponent more
      else finish negative digits exponent rest
    | [] => finish negative digits exponent []

-- A number of whole digits, to its end. `surplus` holds the digits that were only counted.
def finishWhole (negative : Bool) (digits : Nat) (surplus rest : List Char) :
    Reading (Number × List Char) :=
  if surplus ≠ [] then finish negative digits surplus.length rest
  else if !negative then .ok (.int digits, rest)
  else if 0 < digits ∧ digits ≤ 0x8000000000000000 then .ok (.int (-digits), rest)
  else finish true digits 0 rest

-- What stands behind the whole digits of a number.
def readTail (negative : Bool) (digits : Nat) (surplus : List Char) :
    List Char → Reading (Number × List Char)
  | [] => finishWhole negative digits surplus []
  | c :: more =>
    if c = '.' then readFraction negative digits surplus.length more
    else if c = 'e' ∨ c = 'E' then readExponent negative digits surplus.length more
    else finishWhole negative digits surplus (c :: more)

-- A number after its optional minus sign.
def readNumber (negative : Bool) (cs : List Char) : Reading (Number × List Char) :=
  let figures := cs.takeWhile Char.isDigit
  let rest := cs.dropWhile Char.isDigit
  let (digits, surplus) := takeDigits 0 figures
  match figures with
  | [] => if cs.isEmpty then stopAt .eofInValue [] else stopAt .invalidNumber cs
  | '0' :: extra@(_ :: _) => stopAt .invalidNumber (extra ++ rest)
  | _ => readTail negative digits surplus rest

mutual

-- One value. `depth` counts the brackets that may still be opened, plus one.
def readValue : (fuel depth : Nat) → List Char → Reading (Json × List Char)
  | 0, _, cs => stopAt .expectedValue cs
  | fuel + 1, depth, cs =>
    match skipBlanks cs with
    | [] => stopAt .eofInValue []
    | c :: rest =>
      if c = 'n' then (readWord ['u', 'l', 'l'] rest).map (.null, ·)
      else if c = 't' then (readWord ['r', 'u', 'e'] rest).map (.bool true, ·)
      else if c = 'f' then (readWord ['a', 'l', 's', 'e'] rest).map (.bool false, ·)
      else if c = '-' then (readNumber true rest).map fun (n, r) => (.num n, r)
      else if c.isDigit then (readNumber false (c :: rest)).map fun (n, r) => (.num n, r)
      else if c = '"' then (readString (rest.length + 1) [] rest).map fun (s, r) => (.str s, r)
      else if c = '[' ∨ c = '{' then
        match depth with
        | 0 | 1 => stopAt .tooDeep (c :: rest)
        | depth + 1 =>
          if c = '[' then readItems fuel depth [] rest else readMembers fuel depth true .empty rest
      else stopAt .expectedValue (c :: rest)

-- The rest of a list; `sofar` holds the items read, the last one first.
def readItems : (fuel depth : Nat) → (sofar : List Json) → List Char → Reading (Json × List Char)
  | 0, _, _, cs => stopAt .expectedListEnd cs
  | fuel + 1, depth, sofar, cs =>
    match skipBlanks cs with
    | [] => stopAt .eofInList []
    | c :: rest =>
      if c = ']' then .ok (.arr sofar.reverse, rest)
      else if sofar.isEmpty then do
        let (v, after) ← readValue fuel depth (c :: rest)
        readItems fuel depth [v] after
      else if c = ',' then
        match skipBlanks rest with
        | [] => stopAt .eofInValue []
        | ']' :: more => stopAt .trailingComma (']' :: more)
        | next => do
          let (v, after) ← readValue fuel depth next
          readItems fuel depth (v :: sofar) after
      else stopAt .expectedListEnd (c :: rest)

-- The rest of an object; `first` says that no member has been read.
def readMembers : (fuel depth : Nat) → (first : Bool) → (sofar : Dict Json) → List Char →
    Reading (Json × List Char)
  | 0, _, _, _, cs => stopAt .expectedObjectEnd cs
  | fuel + 1, depth, first, sofar, cs =>
    match skipBlanks cs with
    | [] => stopAt .eofInObject []
    | c :: rest =>
      if c = '\x7d' then .ok (.ofDict sofar, rest)
      else if first then readMember fuel depth sofar (c :: rest)
      else if c = ',' then
        match skipBlanks rest with
        | [] => stopAt .eofInValue []
        | '\x7d' :: more => stopAt .trailingComma ('\x7d' :: more)
        | next => readMember fuel depth sofar next
      else stopAt .expectedObjectEnd (c :: rest)

def readMember : (fuel depth : Nat) → (sofar : Dict Json) → List Char → Reading (Json × List Char)
  | 0, _, _, cs => stopAt .expectedObjectEnd cs
  | fuel + 1, depth, sofar, cs =>
    match cs with
    | '"' :: rest => do
      let (key, after) ← readString (rest.length + 1) [] rest
      match skipBlanks after with
      | [] => stopAt .eofInObject []
      | ':' :: body => do
        let (v, more) ← readValue fuel depth body
        readMembers fuel depth false (sofar.insert key v) more
      | other => stopAt .expectedColon other
    | other => stopAt .keyNotString other

end

-- The place that `n` bytes of a text reach.
def placeOf (cs : List Char) (n : Nat) : Nat × Nat :=
  go 1 0 n cs
where
  go (line column : Nat) : Nat → List Char → Nat × Nat
    | _, [] => (line, column)
    | n, c :: rest =>
      if n = 0 then (line, column)
      else if n < c.utf8Size then (line, column + n)
      else if c = '\n' then go (line + 1) 0 (n - 1) rest
      else go line (column + c.utf8Size) (n - c.utf8Size) rest

def SyntaxStop.fault (text : List Char) (stop : SyntaxStop) : SyntaxFault :=
  let (line, column) := placeOf text (Text.byteCount text - Text.byteCount stop.rest + stop.past)
  ⟨stop.cause, line, column⟩

-- A text that holds exactly one value, nested at most 127 deep.
def read (text : String) : Except SyntaxFault Json :=
  let cs := text.toList
  match readValue (3 * cs.length + 3) 128 cs with
  | .error stop => .error (stop.fault cs)
  | .ok (v, after) =>
    match skipBlanks after with
    | [] => .ok v
    | other => .error (SyntaxStop.fault cs ⟨.trailingCharacters, other, 1⟩)

end Stepwise.Json
