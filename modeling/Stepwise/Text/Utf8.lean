namespace Stepwise.Text

-- The bytes of a character.
def encodeChar (c : Char) : List UInt8 :=
  let n := c.toNat
  if n < 0x80 then [n.toUInt8]
  else if n < 0x800 then [(0xC0 + n / 0x40).toUInt8, (0x80 + n % 0x40).toUInt8]
  else if n < 0x10000 then
    [(0xE0 + n / 0x1000).toUInt8, (0x80 + n / 0x40 % 0x40).toUInt8, (0x80 + n % 0x40).toUInt8]
  else
    [(0xF0 + n / 0x40000).toUInt8, (0x80 + n / 0x1000 % 0x40).toUInt8, (0x80 + n / 0x40 % 0x40).toUInt8,
      (0x80 + n % 0x40).toUInt8]

def encode (cs : List Char) : List UInt8 := cs.flatMap encodeChar

def byteCount : List Char → Nat
  | [] => 0
  | c :: rest => c.utf8Size + byteCount rest

-- How a sequence goes on after its first byte: how many bytes follow, the range of the first of
-- them, and the bits the first byte gives.
structure Lead where
  more : Nat
  low : UInt8
  high : UInt8
  bits : Nat

def leadOf? (b : UInt8) : Option Lead :=
  let n := b.toNat
  if b < 0x80 then some ⟨0, 0, 0, n⟩
  else if 0xC2 ≤ b ∧ b ≤ 0xDF then some ⟨1, 0x80, 0xBF, n - 0xC0⟩
  else if b = 0xE0 then some ⟨2, 0xA0, 0xBF, 0⟩
  else if b = 0xED then some ⟨2, 0x80, 0x9F, 0xD⟩
  else if 0xE1 ≤ b ∧ b ≤ 0xEF then some ⟨2, 0x80, 0xBF, n - 0xE0⟩
  else if b = 0xF0 then some ⟨3, 0x90, 0xBF, 0⟩
  else if 0xF1 ≤ b ∧ b ≤ 0xF3 then some ⟨3, 0x80, 0xBF, n - 0xF0⟩
  else if b = 0xF4 then some ⟨3, 0x80, 0x8F, 4⟩
  else none

-- The bytes that continue a sequence, as far as they fit it: the value of a complete sequence, and
-- how many bytes were taken.
def continueSeq : (more : Nat) → (low high : UInt8) → (value taken : Nat) → List UInt8 →
    Option Nat × Nat
  | 0, _, _, value, taken, _ => (some value, taken)
  | _ + 1, _, _, _, taken, [] => (none, taken)
  | more + 1, low, high, value, taken, b :: rest =>
    if low ≤ b ∧ b ≤ high then
      continueSeq more 0x80 0xBF (value * 64 + (b.toNat - 0x80)) (taken + 1) rest
    else (none, taken)

-- The first character of a non-empty run of bytes, if they begin with one, and how many bytes after
-- the first belong to it or to the broken sequence.
def firstChar (b : UInt8) (rest : List UInt8) : Option Char × Nat :=
  match leadOf? b with
  | none => (none, 0)
  | some lead =>
    match continueSeq lead.more lead.low lead.high lead.bits 0 rest with
    | (some value, taken) => (some (Char.ofNat value), taken)
    | (none, taken) => (none, taken)

def replacement : Char := '\ufffd'

-- Each longest broken sequence becomes one replacement character.
def decodeLossy : List UInt8 → List Char
  | [] => []
  | b :: rest =>
    let (c, taken) := firstChar b rest
    c.getD replacement :: decodeLossy (rest.drop taken)
termination_by bytes => bytes.length
decreasing_by simp only [List.length_drop, List.length_cons]; omega

-- `none` for bytes that are not valid.
def decode? : List UInt8 → Option (List Char)
  | [] => some []
  | b :: rest =>
    match firstChar b rest with
    | (some c, taken) => (decode? (rest.drop taken)).map (c :: ·)
    | (none, _) => none
termination_by bytes => bytes.length
decreasing_by simp only [List.length_drop, List.length_cons]; omega

-- Whether a byte belongs to a character that began before it.
def isContinuation (b : UInt8) : Bool := 0x80 ≤ b && b < 0xC0

-- Whether a text may be cut at a place in its bytes: at its start, before a character, at its end.
def isBoundary (bytes : List UInt8) (place : Nat) : Bool :=
  place == 0 ||
    match bytes[place]? with
    | some b => !isContinuation b
    | none => place == bytes.length

-- The last boundary at or before a place, going back from there byte by byte. `none` stands for a
-- step back from the start.
def boundaryBefore? (bytes : List UInt8) : (place : Nat) → Option Nat
  | 0 => if isBoundary bytes 0 then some 0 else none
  | place + 1 =>
    if isBoundary bytes (place + 1) then some (place + 1) else boundaryBefore? bytes place

-- A text cut so that it takes at most `cap` bytes. `none` stands for a cut that is not possible.
def truncate? (cap : Nat) (cs : List Char) : Option (List Char) :=
  let bytes := encode cs
  if bytes.length ≤ cap then some cs
  else (boundaryBefore? bytes cap).bind fun place => decode? (bytes.take place)

end Stepwise.Text
