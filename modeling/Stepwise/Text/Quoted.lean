import Stepwise.Text.Property.Category

namespace Stepwise.Text

-- Spacing marks that count as extending a character, beyond the non-spacing and enclosing marks.
def otherExtending : Ranges := .ofLines
  ["9be 9d7 b3e b57 bbe bd7 cc0 cc2 cc7-cc8 cca-ccb cd5-cd6 d3e d57 dcf ddf 1715 1734 1b35 1b3b 1b3d",
   "1b43-1b44 1baa 1bf2-1bf3 200c 302e-302f a953 a9c0 ff9e-ff9f 111c0 11235 1133e 1134d 11357 113b8 113c2",
   "113c5 113c7-113c9 113cf 114b0 114bd 115af 116b6 11930 1193d 11f41 16ff0-16ff1 1d165-1d166 1d16d-1d172 e0020-e007f"]

def isExtending (c : Char) : Bool :=
  Category.mn.has c || Category.me.has c || otherExtending.has c

-- Assigned characters that leave a mark on paper, and the blank.
def isPrintable (c : Char) : Bool :=
  c == ' ' || (!(Category.zs.has c) && printing.any fun r => r.has c)
where
  printing : List Ranges :=
    [Category.ll, Category.lu, Category.lo, Category.lm, Category.lt, Category.mc, Category.me,
     Category.mn, Category.nd, Category.nl, Category.no, Category.pc, Category.pd, Category.pe,
     Category.pf, Category.pi, Category.po, Category.ps, Category.sc, Category.sk, Category.sm,
     Category.so]

-- One character between quotes: short escapes where there are any, and code points for what would
-- not be seen or would change its neighbour.
def quotedChar (c : Char) : List Char :=
  if c = '\x00' then ['\\', '0']
  else if c = '\t' then ['\\', 't']
  else if c = '\r' then ['\\', 'r']
  else if c = '\n' then ['\\', 'n']
  else if c = '\\' then ['\\', '\\']
  else if c = '"' then ['\\', '"']
  else if isExtending c || !isPrintable c then ['\\', 'u', '\x7b'] ++ Nat.toDigits 16 c.toNat ++ ['\x7d']
  else [c]

-- A text in double quotes that shows every character.
def quoted (s : String) : String := String.ofList ('"' :: s.toList.flatMap quotedChar ++ ['"'])

end Stepwise.Text
