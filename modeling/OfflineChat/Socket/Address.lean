import OfflineChat.Http.Exchange
import OfflineChat.Number.Decimal

/-! # Addresses of sockets

A socket is opened at a scheme, a host and a port.  Addresses are read with less
ado than `Url.ofText`: every part stays as it is, and what does not fit is refused.
-/
namespace OfflineChat

/-- Why a text is no address. -/
inductive SocketAddressError where
  | empty
  | tooLong
  | badCharacter
  | badAuthority
  | badShape
  | longScheme
  | noHost
deriving DecidableEq, Repr

namespace SocketAddressError

/-- The wording of an error. -/
def message : SocketAddressError → String
  | .empty => "HTTP format error: empty string"
  | .tooLong => "HTTP format error: uri too long"
  | .badCharacter => "HTTP format error: invalid uri character"
  | .badAuthority => "HTTP format error: invalid authority"
  | .badShape => "HTTP format error: invalid format"
  | .longScheme => "HTTP format error: scheme too long"
  | .noHost => "URL error: No host name in the URL"

end SocketAddressError

/-- Where a socket is to be opened. -/
structure SocketAddress where
  scheme : Option String
  /-- The host, with brackets around groups. -/
  host : String
  port : Option Nat
deriving DecidableEq, Repr

namespace SocketAddress

/-- The most octets of an address. -/
def longest : Nat := 65534

/-- The characters of an authority, apart from the percent sign. -/
def isAuthorityChar (c : Char) : Bool :=
  c.isAlphanum || "!$&'()*+,-.:;=@[]_~".toList.contains c

/-- The characters that end an authority. -/
def endsAuthority (c : Char) : Bool := c == '/' || c == '?' || c == '#'

/-- What has been seen of an authority. -/
structure Seen where
  colons : Nat
  opened : Bool
  closed : Bool
  percent : Bool

/-- Look at one more character of an authority. -/
def Seen.add (s : Seen) (c : Char) : Except SocketAddressError Seen :=
  if c = ':' then
    if 8 ≤ s.colons then .error .badAuthority else .ok { s with colons := s.colons + 1 }
  else if c = '[' then
    if s.percent || s.opened then .error .badAuthority else .ok { s with opened := true }
  else if c = ']' then
    if !s.opened || s.closed then .error .badAuthority
    else .ok { s with closed := true, colons := 0, percent := false }
  else if c = '@' then .ok { s with colons := 0, percent := false }
  else if c = '%' then .ok { s with percent := true }
  else if isAuthorityChar c then .ok s
  else .error .badCharacter

/-- Cut a text after its authority, which may be empty. -/
def readAuthority (cs : List Char) : Except SocketAddressError (List Char × List Char) := do
  let authority := cs.takeWhile (!endsAuthority ·)
  let s ← authority.foldlM Seen.add ⟨0, false, false, false⟩
  if s.opened != s.closed ∨ 1 < s.colons ∨ authority.getLast? = some '@' ∨ s.percent then
    throw .badAuthority
  pure (authority, cs.drop authority.length)

/-- Cut a text after its authority, which must not be the empty text. -/
def readNonempty (cs : List Char) : Except SocketAddressError (List Char × List Char) :=
  if cs.isEmpty then .error .empty else readAuthority cs

/-- The characters of a scheme. -/
def isSchemeChar (c : Char) : Bool := c.isAlphanum || ['+', '-', '.', '~'].contains c

/-- Cut a text after its scheme and the two slashes.  The slashes alone are no such text. -/
def readScheme (cs : List Char) : Except SocketAddressError (Option String × List Char) :=
  let name := cs.takeWhile isSchemeChar
  match cs.drop name.length with
  | ':' :: '/' :: '/' :: rest =>
    if name.isEmpty ∧ rest.isEmpty then .ok (none, cs)
    else if 64 < name.length then .error .longScheme
    else .ok (some (String.ofList name), rest)
  | _ => .ok (none, cs)

/-- The characters of a path. -/
def isPathChar (c : Char) : Bool :=
  decide (0x20 < c.toNat) && !(['#', '<', '>', '?', '`'].contains c)

/-- The characters of a query. -/
def isQueryChar (c : Char) : Bool :=
  decide (0x20 < c.toNat) && !(['"', '#', '<', '>'].contains c)

/-- See that the text behind an authority is a path with a query, up to the fragment. -/
def checkTail (cs : List Char) : Except SocketAddressError Unit :=
  let tail := cs.takeWhile (· != '#')
  let path := tail.takeWhile (· != '?')
  let query := (tail.drop path.length).drop 1
  if path.all isPathChar && query.all isQueryChar then .ok () else .error .badCharacter

/-- The parts of a text before its host: the scheme and the authority. -/
def parts (cs : List Char) : Except SocketAddressError (Option String × List Char) :=
  match cs with
  | [] => .error .empty
  | ['/'] => .ok (none, [])
  | ['*'] => .ok (none, [])
  | [c] => do
    let (authority, rest) ← readAuthority [c]
    if rest.isEmpty then pure (none, authority) else throw .badCharacter
  | '/' :: _ => (checkTail cs).map fun _ => (none, [])
  | cs => do
    let (scheme, rest) ← readScheme cs
    let (authority, tail) ← readNonempty rest
    match scheme with
    | none => if tail.isEmpty then pure (none, authority) else throw .badShape
    | some _ =>
      if authority.isEmpty then throw .badShape
      checkTail tail
      pure (scheme, authority)

/-- What follows the last of a character, or the whole list. -/
def afterLast (c : Char) (cs : List Char) : List Char := (cs.reverse.takeWhile (· != c)).reverse

/-- The host of an authority. -/
def hostOf (authority : List Char) : List Char :=
  match afterLast '@' authority with
  | '[' :: rest => '[' :: rest.takeWhile (· != ']') ++ [']']
  | cs => cs.takeWhile (· != ':')

/-- The port of an authority, if it names one. -/
def portOf? (authority : List Char) : Option Nat :=
  if authority.contains ':' then Decimal.natural? 65535 (String.ofList (afterLast ':' authority))
  else none

/-- Read an address. -/
def ofText (s : String) : Except SocketAddressError SocketAddress := do
  if longest < s.utf8ByteSize then throw .tooLong
  let (scheme, authority) ← parts s.toList
  if authority.isEmpty then throw .noHost
  pure ⟨scheme, String.ofList (hostOf authority), portOf? authority⟩

/-- The port to open: the one named, or the usual one of the scheme. -/
def usedPort? (a : SocketAddress) : Option Nat :=
  a.port.or (match a.scheme with
    | some "ws" => some 80
    | some "wss" => some 443
    | _ => none)

end SocketAddress
end OfflineChat
