namespace Stepwise.Toml

def isBlank (c : Char) : Bool := c == ' ' || c == '\t'

-- What may stand in quotes and comments as it is: no control character except the tab.
def isPlain (c : Char) : Bool := c == '\t' || (0x20 ≤ c.toNat && c.toNat != 0x7F)

def skipBlanks (cs : List Char) : List Char := cs.dropWhile isBlank

def digitValue? (c : Char) : Option Nat :=
  if c.isDigit then some (c.toNat - '0'.toNat)
  else if 'a' ≤ c ∧ c ≤ 'f' then some (c.toNat - 'a'.toNat + 10)
  else if 'A' ≤ c ∧ c ≤ 'F' then some (c.toNat - 'A'.toNat + 10)
  else none

-- The value of digits in a base up to 16.
def valueIn? (base : Nat) (digits : List Char) : Option Nat :=
  digits.foldlM (fun n c => do
    let d ← digitValue? c
    if d < base then some (n * base + d) else none) 0

-- The character that hexadecimal digits number; surrogates are none.
def numberedChar? (digits : List Char) : Option Char := do
  let n ← valueIn? 16 digits
  if h : n.isValidChar then some (Char.ofNatAux n h) else none

def escapedChar? (c : Char) : Option Char :=
  if c = '"' ∨ c = '\\' then some c
  else if c = 'b' then some '\x08'
  else if c = 'f' then some '\x0c'
  else if c = 'n' then some '\n'
  else if c = 'r' then some '\r'
  else if c = 't' then some '\t'
  else none

-- A text and what follows it. Each reader below takes what stands after the opening quotes.
abbrev Quoted := Option (List Char × List Char)

def Quoted.before (c : Char) (q : Quoted) : Quoted := q.map fun (s, rest) => (c :: s, rest)

def Quoted.beforeNumbered (digits : List Char) (q : Quoted) : Quoted :=
  (numberedChar? digits).bind q.before

-- On one line, with escapes.
def readBasic : List Char → Quoted
  | [] => none
  | '"' :: rest => some ([], rest)
  | '\\' :: 'u' :: a :: b :: c :: d :: rest => (readBasic rest).beforeNumbered [a, b, c, d]
  | '\\' :: 'U' :: a :: b :: c :: d :: e :: f :: g :: h :: rest =>
    (readBasic rest).beforeNumbered [a, b, c, d, e, f, g, h]
  | '\\' :: c :: rest => (escapedChar? c).bind (readBasic rest).before
  | c :: rest => if isPlain c then (readBasic rest).before c else none

-- On one line, as it is.
def readLiteral : List Char → Quoted
  | [] => none
  | '\x27' :: rest => some ([], rest)
  | c :: rest => if isPlain c then (readLiteral rest).before c else none

-- Up to two further quotes after the three that close a text belong to the text.
def closing (quote : Char) : List Char → List Char × List Char
  | [] => ([], [])
  | c :: rest =>
    if c ≠ quote then ([], c :: rest)
    else match rest with
      | [] => ([c], [])
      | d :: more => if d = quote then ([c, d], more) else ([c], d :: more)

-- Whether a line ends here, blanks aside.
def atLineEnd (cs : List Char) : Bool :=
  match skipBlanks cs with
  | '\n' :: _ => true
  | '\r' :: '\n' :: _ => true
  | _ => false

-- Over several lines, with escapes. A backslash at the end of a line takes away the line end and all
-- blanks and line ends that follow it; `trimming` says that this is under way.
def readLongBasic : (trimming : Bool) → List Char → Quoted
  | _, [] => none
  | _, '"' :: '"' :: '"' :: rest => some (closing '"' rest)
  | trimming, '\r' :: '\n' :: rest =>
    if trimming then readLongBasic true rest else (readLongBasic false rest).before '\n'
  | trimming, '\n' :: rest =>
    if trimming then readLongBasic true rest else (readLongBasic false rest).before '\n'
  | _, '\\' :: 'u' :: a :: b :: c :: d :: rest =>
    (readLongBasic false rest).beforeNumbered [a, b, c, d]
  | _, '\\' :: 'U' :: a :: b :: c :: d :: e :: f :: g :: h :: rest =>
    (readLongBasic false rest).beforeNumbered [a, b, c, d, e, f, g, h]
  | _, '\\' :: c :: rest =>
    if atLineEnd (c :: rest) then readLongBasic true (c :: rest)
    else (escapedChar? c).bind (readLongBasic false rest).before
  | trimming, c :: rest =>
    if trimming && isBlank c then readLongBasic true rest
    else if isPlain c then (readLongBasic false rest).before c
    else none

-- Over several lines, as it is.
def readLongLiteral : List Char → Quoted
  | [] => none
  | '\x27' :: '\x27' :: '\x27' :: rest => some (closing '\x27' rest)
  | '\r' :: '\n' :: rest => (readLongLiteral rest).before '\n'
  | '\n' :: rest => (readLongLiteral rest).before '\n'
  | c :: rest => if isPlain c then (readLongLiteral rest).before c else none

-- A line end right after three opening quotes is no part of the text.
def skipLineEnd : List Char → List Char
  | '\n' :: rest => rest
  | '\r' :: '\n' :: rest => rest
  | cs => cs

-- A text in any of the four kinds of quotes.
def readText : List Char → Quoted
  | '"' :: '"' :: '"' :: rest => readLongBasic false (skipLineEnd rest)
  | '"' :: rest => readBasic rest
  | '\x27' :: '\x27' :: '\x27' :: rest => readLongLiteral (skipLineEnd rest)
  | '\x27' :: rest => readLiteral rest
  | _ => none

end Stepwise.Toml
