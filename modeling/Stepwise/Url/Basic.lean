import Stepwise.Text.Utf8
import Stepwise.Url.Address
import Stepwise.Url.Domain.Basic

namespace Stepwise

-- Where a URL points to. An empty host is allowed outside the schemes of the web.
inductive Host
  | domain (name : List Char)
  | ipv4 (address : Nat)
  | ipv6 (pieces : List Nat)
  | empty
deriving DecidableEq

-- The parts of an absolute URL that decide whether and how it can be fetched.
structure Url where
  scheme : String
  host : Option Host
  port : Option Nat
deriving DecidableEq

namespace Url

inductive Fault
  | noBase
  | emptyHost
  | invalidPort
  | invalidIpv4
  | invalidIpv6
  | invalidDomainCharacter
  | invalidDomain
deriving DecidableEq

def Fault.message : Fault → String
  | noBase => "relative URL without a base"
  | emptyHost => "empty host"
  | invalidPort => "invalid port number"
  | invalidIpv4 => "invalid IPv4 address"
  | invalidIpv6 => "invalid IPv6 address"
  | invalidDomainCharacter => "invalid domain character"
  | invalidDomain => "invalid international domain name"

abbrev Parsed (α : Type) := Except Fault α

def isLineBreakOrTab (c : Char) : Bool := c == '\t' || c == '\n' || c == '\r'

-- Controls and blanks around a URL, and tabs and line breaks anywhere in it, do not count.
def strip (cs : List Char) : List Char :=
  (Text.dropEndWhile (·.toNat ≤ 0x20) (cs.dropWhile (·.toNat ≤ 0x20))).filter (!isLineBreakOrTab ·)

-- The scheme in lower case and what follows its colon.
def splitScheme? (cs : List Char) : Option (List Char × List Char) :=
  let scheme := cs.takeWhile fun c => c.isAlphanum || c == '+' || c == '-' || c == '.'
  match scheme, cs.drop scheme.length with
  | c :: _, ':' :: rest => if c.isAlpha then some (Text.lowerAscii scheme, rest) else none
  | _, _ => none

def webSchemes : List String := ["http", "https", "ws", "wss", "ftp"]

def defaultPort? (scheme : String) : Option Nat :=
  if scheme = "http" ∨ scheme = "ws" then some 80
  else if scheme = "https" ∨ scheme = "wss" then some 443
  else if scheme = "ftp" then some 21
  else none

-- Percent escapes as bytes; a percent sign without two hexadecimal digits stands for itself.
def percentDecode : List Char → List UInt8
  | '%' :: a :: b :: rest =>
    match Json.hexValue? a, Json.hexValue? b with
    | some x, some y => (x * 16 + y).toUInt8 :: percentDecode rest
    | _, _ => 0x25 :: percentDecode (a :: b :: rest)
  | c :: rest => Text.encodeChar c ++ percentDecode rest
  | [] => []

-- The text between brackets.
def bracketed? (cs : List Char) : Option (List Char) :=
  match cs with
  | '[' :: rest => if rest.getLast? = some ']' then some rest.dropLast else none
  | _ => none

-- The host of a scheme of the web.
def webHost (cs : List Char) : Parsed Host :=
  match cs with
  | '[' :: _ =>
    match (bracketed? cs).bind ipv6? with
    | some pieces => .ok (.ipv6 pieces)
    | none => .error .invalidIpv6
  | _ =>
    match (Text.decode? (percentDecode cs)).bind Domain.prepare? with
    | none => .error .invalidDomain
    | some domain =>
      if domain.isEmpty then .error .emptyHost
      else if endsInNumber domain then
        match ipv4? domain with
        | some address => .ok (.ipv4 address)
        | none => .error .invalidIpv4
      else .ok (.domain domain)

-- The host of any other scheme, kept as it is written.
def opaqueHost (cs : List Char) : Parsed Host :=
  match cs with
  | [] => .ok .empty
  | '[' :: _ =>
    match (bracketed? cs).bind ipv6? with
    | some pieces => .ok (.ipv6 pieces)
    | none => .error .invalidIpv6
  | _ =>
    if cs.any fun c => c == '\x00' || " #/:<>?@[\\]^|".toList.contains c then
      .error .invalidDomainCharacter
    else .ok (.domain cs)

def endsAuthority (web : Bool) (c : Char) : Bool :=
  c == '/' || c == '?' || c == '#' || (web && c == '\\')

-- What stands before the last `@` of the authority, and the rest from there.
def splitUser (web : Bool) (cs : List Char) : List Char × List Char × Bool :=
  let authority := cs.takeWhile (!endsAuthority web ·)
  let host := (authority.reverse.takeWhile (· ≠ '@')).reverse
  if host.length = authority.length then ([], cs, false)
  else
    let user := authority.take (authority.length - host.length - 1)
    (user, cs.drop (user.length + 1), true)

-- The host ends at a colon outside brackets or with the authority.
def hostLength (web : Bool) : (inside : Bool) → List Char → Nat
  | _, [] => 0
  | inside, c :: rest =>
    if (c == ':' && !inside) || endsAuthority web c then 0
    else 1 + hostLength web (if c == '[' then true else if c == ']' then false else inside) rest

-- A port is a number below 65536; no digits at all mean the default.
def readPort (cs : List Char) : Parsed (Option Nat) :=
  let digits := cs.takeWhile Char.isDigit
  match digitsIn? 10 digits with
  | none => .error .invalidPort
  | some n =>
    if 65535 < n then .error .invalidPort
    else match cs.drop digits.length with
      | [] => .ok (if digits.isEmpty then none else some n)
      | c :: _ =>
        if c == '/' || c == '\\' || c == '?' || c == '#' then .ok (if digits.isEmpty then none else some n)
        else .error .invalidPort

-- User, host and port, after the slashes.
def readAuthority (scheme : String) (web : Bool) (cs : List Char) : Parsed Url := do
  let (user, rest, marked) := splitUser web cs
  -- A user without a host is refused, except at the very end of a URL outside the web.
  if marked && user.isEmpty && rest.head?.any (endsAuthority web) then throw .emptyHost
  let length := hostLength web false rest
  let text := rest.take length
  if web && text.isEmpty then throw .emptyHost
  let host ← if web then webHost text else opaqueHost text
  let after := rest.drop length
  if host = .empty && after.head? == some ':' then throw .emptyHost
  let port ← match after with
    | ':' :: digits => readPort digits
    | _ => pure none
  -- A lone colon is no user.
  if host = .empty && marked && user ≠ [] && user ≠ [':'] then throw .emptyHost
  return ⟨scheme, some host, if port = defaultPort? scheme then none else port⟩

def isDriveLetter (cs : List Char) : Bool :=
  match cs with
  | [c, d] => c.isAlpha && (d == ':' || d == '|')
  | _ => false

-- A file has a host only after two slashes, and a drive letter is no host.
def readFile (cs : List Char) : Parsed Url :=
  match cs with
  | a :: b :: rest =>
    if (a == '/' || a == '\\') && (b == '/' || b == '\\') then
      let text := rest.takeWhile fun c => !(c == '/' || c == '\\' || c == '?' || c == '#')
      if text.isEmpty || isDriveLetter text then .ok ⟨"file", none, none⟩
      else do
        let host ← webHost text
        return ⟨"file", if host = .domain "localhost".toList then none else some host, none⟩
    else .ok ⟨"file", none, none⟩
  | _ => .ok ⟨"file", none, none⟩

-- Read an absolute URL.
def parse (s : String) : Parsed Url :=
  match splitScheme? (strip s.toList) with
  | none => .error .noBase
  | some (scheme, rest) =>
    let scheme := String.ofList scheme
    if scheme = "file" then readFile rest
    else if webSchemes.contains scheme then
      readAuthority scheme true (rest.dropWhile fun c => c == '/' || c == '\\')
    else match rest with
      | '/' :: '/' :: more => readAuthority scheme false more
      | _ => .ok ⟨scheme, none, none⟩

end Url

end Stepwise
