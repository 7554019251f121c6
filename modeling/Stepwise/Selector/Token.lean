import Stepwise.Selector.Basic

namespace Stepwise.Selector

inductive Opener
  | round | square | curly
  | function (name : String)
deriving DecidableEq

inductive Closer
  | round | square | curly
deriving DecidableEq

def Opener.closer : Opener → Closer
  | round | function _ => .round
  | square => .square
  | curly => .curly

-- The words of a selector. Comments are left out. `whole` is nothing for a number with a fraction
-- or an exponent.
inductive Token
  | ident (name : String)
  | hash (isName : Bool) (name : String)
  | string (value : String)
  | number (signed : Bool) (whole : Option Int)
  | dimension (whole : Option Int) (unit : String)
  | space
  | colon
  | comma
  | operator (op : Operator)
  | delim (c : Char)
  | opener (o : Opener)
  | closer (c : Closer)
  -- A string or an address that is broken off.
  | broken
  -- A word that no selector holds.
  | other
deriving DecidableEq

namespace Token

def isNewline (c : Char) : Bool := c == '\n' || c == '\r' || c == '\x0c'

def isHexDigit (c : Char) : Bool :=
  c.isDigit || ('a' ≤ c && c ≤ 'f') || ('A' ≤ c && c ≤ 'F')

def hexValue (c : Char) : Nat :=
  if c.isDigit then c.toNat - '0'.toNat else c.toLower.toNat - 'a'.toNat + 10

def replacement : Char := '\uFFFD'

-- The character of a number; zero and numbers of no character give the replacement character.
def charOfCode (n : Nat) : Char :=
  if n = 0 ∨ ¬ n.isValidChar then replacement else Char.ofNat n

-- A carriage return and a line feed count as one.
def dropOneBlank : List Char → List Char
  | '\r' :: '\n' :: rest => rest
  | c :: rest => if Text.isAsciiBlank c then rest else c :: rest
  | [] => []

theorem length_dropOneBlank (cs : List Char) : (dropOneBlank cs).length ≤ cs.length := by
  unfold dropOneBlank
  split
  · simp only [List.length_cons]; omega
  · split <;> simp
  · simp

-- What stands after a backslash: up to six hexadecimal digits, or one character as it is.
def readEscape : List Char → Char × List Char
  | [] => (replacement, [])
  | c :: rest =>
    if isHexDigit c then
      let digits := ((c :: rest).take 6).takeWhile isHexDigit
      (charOfCode (digits.foldl (fun n d => n * 16 + hexValue d) 0),
        dropOneBlank ((c :: rest).drop digits.length))
    else if c = '\x00' then (replacement, rest)
    else (c, rest)

theorem length_readEscape (cs : List Char) : (readEscape cs).2.length ≤ cs.length := by
  unfold readEscape
  split
  · simp
  · split
    · exact Nat.le_trans (length_dropOneBlank _) (by simp only [List.length_drop]; omega)
    · split <;> simp

def startsLine : List Char → Bool
  | c :: _ => isNewline c
  | [] => false

def isNameChar (c : Char) : Bool := c.isAlphanum || c == '-' || c == '_' || c.toNat ≥ 0x80

def readName (cs : List Char) : List Char × List Char :=
  match cs with
  | [] => ([], [])
  | c :: rest =>
    if isNameChar c then
      let (name, more) := readName rest
      (c :: name, more)
    else if c = '\x00' then
      let (name, more) := readName rest
      (replacement :: name, more)
    else if c = '\\' ∧ ¬ startsLine rest then
      have := length_readEscape rest
      let (name, more) := readName (readEscape rest).2
      ((readEscape rest).1 :: name, more)
    else ([], c :: rest)
termination_by cs.length
decreasing_by all_goals simp only [List.length_cons]; omega

theorem length_readName (cs : List Char) : (readName cs).2.length ≤ cs.length := by
  fun_induction readName cs <;> simp_all only [List.length_cons, List.length_nil] <;> omega

-- The text up to a closing quote or the end; nothing where a line ends first.
def readString (quote : Char) (cs : List Char) : Option (List Char) × List Char :=
  match cs with
  | [] => (some [], [])
  | c :: rest =>
    if c = quote then (some [], rest)
    else if isNewline c then (none, c :: rest)
    else if c = '\\' then
      if rest.isEmpty then (some [], [])
      else if startsLine rest then
        have := length_dropOneBlank rest
        readString quote (dropOneBlank rest)
      else
        have := length_readEscape rest
        let (text, more) := readString quote (readEscape rest).2
        (text.map ((readEscape rest).1 :: ·), more)
    else
      let (text, more) := readString quote rest
      (text.map ((if c = '\x00' then replacement else c) :: ·), more)
termination_by cs.length
decreasing_by all_goals simp only [List.length_cons]; omega

theorem length_readString (quote : Char) (cs : List Char) :
    (readString quote cs).2.length ≤ cs.length := by
  fun_induction readString quote cs <;> simp_all only [List.length_cons, List.length_nil] <;> omega

-- What follows the end of a comment.
def skipComment : List Char → List Char
  | '*' :: '/' :: rest => rest
  | _ :: rest => skipComment rest
  | [] => []

theorem length_skipComment (cs : List Char) : (skipComment cs).length ≤ cs.length := by
  fun_induction skipComment cs <;> simp only [List.length_cons, List.length_nil] <;> omega

-- An address without quotes, up to its closing bracket or the end. Blanks stand only at its end.
def readAddress (afterBlank sound : Bool) (cs : List Char) : Bool × List Char :=
  match cs with
  | [] => (sound, [])
  | c :: rest =>
    if c = ')' then (sound, rest)
    else if Text.isAsciiBlank c then readAddress true sound rest
    else if c = '\\' ∧ ¬ startsLine rest then
      have := length_readEscape rest
      readAddress afterBlank (sound && !afterBlank) (readEscape rest).2
    else
      let unfit := afterBlank || c == '"' || c == '\'' || c == '(' || c == '\\' ||
        (0 < c.toNat && c.toNat < 0x20) || c.toNat == 0x7F
      readAddress afterBlank (sound && !unfit) rest
termination_by cs.length
decreasing_by all_goals simp only [List.length_cons]; omega

theorem length_readAddress (afterBlank sound : Bool) (cs : List Char) :
    (readAddress afterBlank sound cs).2.length ≤ cs.length := by
  fun_induction readAddress afterBlank sound cs <;> simp_all only [List.length_cons] <;> omega

-- Whether a name starts here.
def startsName : List Char → Bool
  | c :: rest =>
    if c = '-' then
      match rest with
      | d :: _ => d.isAlpha || d == '_' || d == '-' || d == '\\' || d == '\x00' || d.toNat ≥ 0x80
      | [] => false
    else if c = '\\' then !startsLine rest
    else c.isAlpha || c == '_' || c == '\x00' || c.toNat ≥ 0x80
  | [] => false

theorem length_readName_lt {c : Char} {rest : List Char} (h : startsName (c :: rest)) :
    (readName (c :: rest)).2.length ≤ rest.length := by
  have h1 := length_readName rest
  have h2 := length_readName (readEscape rest).2
  have h3 := length_readEscape rest
  unfold readName
  split
  · exact h1
  · next hname =>
    split
    · exact h1
    · next hnul =>
      split
      · show (readName (readEscape rest).2).2.length ≤ _
        omega
      · next hesc =>
        exfalso
        by_cases hc : c = '-'
        · subst hc; exact hname (by decide)
        · by_cases hb : c = '\\'
          · subst hb; simp_all [startsName]
          · simp only [startsName, hc, hb, ite_false] at h
            simp only [isNameChar, Char.isAlphanum] at hname
            grind

def startsDigit : List Char → Bool
  | c :: _ => c.isDigit
  | [] => false

-- Whether a number starts here, apart from its sign.
def startsNumber : List Char → Bool
  | '.' :: rest => startsDigit rest
  | cs => startsDigit cs

def saturate (n : Int) : Int := max (-0x80000000) (min n (0x80000000 - 1))

def dropFraction : List Char → Option (List Char)
  | '.' :: rest => if startsDigit rest then some (rest.dropWhile Char.isDigit) else none
  | _ => none

def dropSign : List Char → List Char
  | '+' :: rest | '-' :: rest => rest
  | cs => cs

def dropExponent : List Char → Option (List Char)
  | c :: rest =>
    if (c = 'e' ∨ c = 'E') ∧ startsDigit (dropSign rest) then
      some ((dropSign rest).dropWhile Char.isDigit)
    else none
  | [] => none

theorem length_dropWhile (p : Char → Bool) (cs : List Char) :
    (cs.dropWhile p).length ≤ cs.length := (List.dropWhile_sublist p).length_le

theorem length_dropSign (cs : List Char) : (dropSign cs).length ≤ cs.length := by
  unfold dropSign
  split <;> simp

theorem length_dropFraction {cs more : List Char} (h : dropFraction cs = some more) :
    more.length ≤ cs.length := by
  unfold dropFraction at h
  split at h
  · next rest =>
    split at h
    · cases h
      have := length_dropWhile Char.isDigit rest
      simp only [List.length_cons]
      omega
    · cases h
  · cases h

theorem length_dropExponent {cs more : List Char} (h : dropExponent cs = some more) :
    more.length ≤ cs.length := by
  unfold dropExponent at h
  split at h
  · next c rest =>
    split at h
    · obtain rfl := Option.some.inj h
      have := length_dropWhile Char.isDigit (dropSign rest)
      have := length_dropSign rest
      simp only [List.length_cons]
      omega
    · cases h
  · cases h

-- A percentage, a number with a unit, or a bare number, whose value is already read.
def readUnit (signed : Bool) (whole : Option Int) (cs : List Char) : Token × List Char :=
  match cs with
  | '%' :: rest => (.other, rest)
  | _ =>
    if startsName cs then (.dimension whole (String.ofList (readName cs).1), (readName cs).2)
    else (.number signed whole, cs)

theorem length_readUnit (signed : Bool) (whole : Option Int) (cs : List Char) :
    (readUnit signed whole cs).2.length ≤ cs.length := by
  unfold readUnit
  split
  · simp
  · split
    · exact length_readName cs
    · simp

-- `sign` is what stands before the digits, if anything does.
def readNumber (sign : Option Char) (cs : List Char) : Token × List Char :=
  let value : Int :=
    (cs.takeWhile Char.isDigit).foldl (fun n d => n * 10 + (d.toNat - '0'.toNat : Nat)) 0
  let value := saturate (if sign = some '-' then -value else value)
  let more := cs.dropWhile Char.isDigit
  match dropFraction more with
  | some more => readUnit sign.isSome none ((dropExponent more).getD more)
  | none =>
    match dropExponent more with
    | some more => readUnit sign.isSome none more
    | none => readUnit sign.isSome (some value) more

theorem length_readNumber_le (sign : Option Char) (cs : List Char) :
    (readNumber sign cs).2.length ≤
      ((dropFraction (cs.dropWhile Char.isDigit)).getD (cs.dropWhile Char.isDigit)).length := by
  unfold readNumber
  dsimp only
  split
  · next more e =>
    refine Nat.le_trans (length_readUnit ..) ?_
    rw [e]
    cases e' : dropExponent more with
    | none => simp
    | some more' => simpa using length_dropExponent e'
  · next e =>
    rw [e]
    split
    · next more e' => exact Nat.le_trans (length_readUnit ..) (length_dropExponent e')
    · exact length_readUnit ..

theorem length_readNumber (sign : Option Char) (cs : List Char) :
    (readNumber sign cs).2.length ≤ cs.length := by
  have h := length_dropWhile Char.isDigit cs
  refine Nat.le_trans (length_readNumber_le sign cs) (Nat.le_trans ?_ h)
  cases e : dropFraction (cs.dropWhile Char.isDigit) with
  | none => simp
  | some more => simpa using length_dropFraction e

theorem length_readNumber_lt {c : Char} {rest : List Char} (sign : Option Char)
    (h : c.isDigit ∨ c = '.' ∧ startsDigit rest) :
    (readNumber sign (c :: rest)).2.length ≤ rest.length := by
  refine Nat.le_trans (length_readNumber_le sign _) ?_
  rcases h with h | ⟨rfl, h⟩
  · rw [List.dropWhile_cons_of_pos h]
    refine Nat.le_trans ?_ (length_dropWhile Char.isDigit rest)
    cases e : dropFraction (rest.dropWhile Char.isDigit) with
    | none => simp
    | some more => simpa using length_dropFraction e
  · rw [List.dropWhile_cons_of_neg (by decide)]
    simpa [dropFraction, h] using length_dropWhile Char.isDigit rest

-- What follows `url(`: the argument of a function if it begins with a quote, else an address.
def readUrl (name : List Char) (cs : List Char) : Token × List Char :=
  match (cs.dropWhile Text.isAsciiBlank).head? with
  | some '"' | some '\'' => (.opener (.function (String.ofList name)), cs)
  | _ =>
    let (sound, more) := readAddress false true (cs.dropWhile Text.isAsciiBlank)
    (if sound then .other else .broken, more)

theorem length_readUrl (name cs : List Char) : (readUrl name cs).2.length ≤ cs.length := by
  unfold readUrl
  split
  · simp
  · simp
  · exact Nat.le_trans (length_readAddress ..) (length_dropWhile ..)

-- A name, or the opening of a function of that name.
def readWord (cs : List Char) : Token × List Char :=
  match readName cs with
  | (name, '(' :: rest) =>
    if Text.lowerAscii name = ['u', 'r', 'l'] then readUrl name rest
    else (.opener (.function (String.ofList name)), rest)
  | (name, more) => (.ident (String.ofList name), more)

theorem length_readWord_le (cs : List Char) :
    (readWord cs).2.length ≤ (readName cs).2.length := by
  unfold readWord
  split
  · next name rest e =>
    rw [e]
    simp only [List.length_cons]
    split
    · have := length_readUrl name rest; omega
    · show rest.length ≤ _; omega
  · next e => exact Nat.le_of_eq (by rw [e])

def readHash (cs : List Char) : Token × List Char :=
  if startsName cs || startsDigit cs || cs.head? == some '-' then
    (.hash (startsName cs) (String.ofList (readName cs).1), (readName cs).2)
  else (.delim '#', cs)

theorem length_readHash (cs : List Char) : (readHash cs).2.length ≤ cs.length := by
  unfold readHash
  split
  · exact length_readName cs
  · simp

-- The two characters `c` and `=`, or `c` alone.
def readOperator (c : Char) (op : Operator) : List Char → Token × List Char
  | '=' :: rest => (.operator op, rest)
  | rest => (.delim c, rest)

theorem length_readOperator (c : Char) (op : Operator) (cs : List Char) :
    (readOperator c op cs).2.length ≤ cs.length := by
  unfold readOperator
  split <;> simp

-- The text between quotes, or a broken word.
def readQuoted (quote : Char) (cs : List Char) : Token × List Char :=
  match readString quote cs with
  | (some text, more) => (.string (String.ofList text), more)
  | (none, more) => (.broken, more)

theorem length_readQuoted (quote : Char) (cs : List Char) :
    (readQuoted quote cs).2.length ≤ cs.length := by
  have h := length_readString quote cs
  unfold readQuoted
  split <;> next e => rw [e] at h; exact h

-- A word that begins with a sign or a mark.
def readMark (c : Char) (rest : List Char) : Token × List Char :=
  match c with
  | '#' => readHash rest
  | '$' => readOperator c .finish rest
  | '*' => readOperator c .part rest
  | '^' => readOperator c .start rest
  | '|' => readOperator c .dash rest
  | '~' => readOperator c .word rest
  | '(' => (.opener .round, rest)
  | '[' => (.opener .square, rest)
  | '\x7b' => (.opener .curly, rest)
  | ')' => (.closer .round, rest)
  | ']' => (.closer .square, rest)
  | '\x7d' => (.closer .curly, rest)
  | ',' => (.comma, rest)
  | ':' => (.colon, rest)
  | ';' => (.other, rest)
  | '<' => if ['!', '-', '-'].isPrefixOf rest then (.other, rest.drop 3) else (.delim c, rest)
  | '@' => if startsName rest then (.other, (readName rest).2) else (.delim c, rest)
  | _ => (.delim c, rest)

theorem length_readMark (c : Char) (rest : List Char) :
    (readMark c rest).2.length ≤ rest.length := by
  unfold readMark
  split <;> try first
    | exact length_readHash ..
    | exact length_readOperator ..
    | exact Nat.le_refl _
  · split
    · show (rest.drop 3).length ≤ _; simp
    · exact Nat.le_refl _
  · split
    · exact length_readName ..
    · exact Nat.le_refl _

-- The first word of `c :: rest`, or nothing for a comment, and what follows it.
def next (c : Char) (rest : List Char) : Option Token × List Char :=
  if Text.isAsciiBlank c then (some .space, rest.dropWhile Text.isAsciiBlank)
  else if c = '/' ∧ rest.head? = some '*' then (none, skipComment rest.tail)
  else
    let (word, more) :=
      if c = '"' ∨ c = '\'' then readQuoted c rest
      else if c.isDigit ∨ c = '.' ∧ startsDigit rest then readNumber none (c :: rest)
      else if (c = '+' ∨ c = '-') ∧ startsNumber rest then readNumber (some c) rest
      else if c = '-' ∧ ['-', '>'].isPrefixOf rest then (.other, rest.drop 2)
      else if startsName (c :: rest) then readWord (c :: rest)
      else readMark c rest
    (some word, more)

theorem length_next (c : Char) (rest : List Char) : (next c rest).2.length ≤ rest.length := by
  unfold next
  split
  · exact length_dropWhile ..
  · split
    · exact Nat.le_trans (length_skipComment _) (by simp)
    · dsimp only
      split
      · exact length_readQuoted ..
      · split
        · next h => exact length_readNumber_lt none h
        · split
          · exact length_readNumber ..
          · split
            · show (rest.drop 2).length ≤ _; simp
            · split
              · next h => exact Nat.le_trans (length_readWord_le _) (length_readName_lt h)
              · exact length_readMark ..

def all (cs : List Char) : List Token :=
  match cs with
  | [] => []
  | c :: rest =>
    have := length_next c rest
    (next c rest).1.toList ++ all (next c rest).2
termination_by cs.length
decreasing_by simp only [List.length_cons]; omega

end Token

end Stepwise.Selector
