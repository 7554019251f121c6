namespace Stepwise.Text

-- White space, in the sense of the Unicode property of that name.
def isBlank (c : Char) : Bool :=
  let n := c.toNat
  (0x09 ≤ n && n ≤ 0x0D) || n == 0x20 || n == 0x85 || n == 0xA0 || n == 0x1680 ||
    (0x2000 ≤ n && n ≤ 0x200A) || n == 0x2028 || n == 0x2029 || n == 0x202F || n == 0x205F || n == 0x3000

-- The white space that separates words in markup.
def isAsciiBlank (c : Char) : Bool := c == ' ' || c == '\t' || c == '\n' || c == '\x0c' || c == '\r'

-- Drop from the end while a test holds.
def dropEndWhile {α : Type} (p : α → Bool) (xs : List α) : List α := (xs.reverse.dropWhile p).reverse

def trim (cs : List Char) : List Char := dropEndWhile isBlank (cs.dropWhile isBlank)

def lowerAscii (cs : List Char) : List Char := cs.map Char.toLower

-- The parts between separators, as many as separators plus one.
def splitAt (isSeparator : Char → Bool) : List Char → List (List Char)
  | [] => [[]]
  | c :: rest =>
    if isSeparator c then [] :: splitAt isSeparator rest
    else match splitAt isSeparator rest with
      | [] => [[c]]
      | part :: more => (c :: part) :: more

-- Words separated by markup white space.
def words (cs : List Char) : List (List Char) := (splitAt isAsciiBlank cs).filter (· ≠ [])

-- Where `needle` begins in a text, counted in characters.
def find? (needle : List Char) : List Char → Option Nat
  | [] => if needle.isEmpty then some 0 else none
  | c :: rest => if needle.isPrefixOf (c :: rest) then some 0 else (find? needle rest).map (· + 1)

def contains (needle haystack : List Char) : Bool := (find? needle haystack).isSome

end Stepwise.Text
