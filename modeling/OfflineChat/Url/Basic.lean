import OfflineChat.Url.Address

/-! # URLs

A URL taken apart, with every part in its written form, and `Url.text`, which
puts the parts together.  A path is a list of segments below the root, or, in a
URL that names no place to start from, a text of its own.  Reading a URL is the
matter of `Url.Parser`.
-/
namespace OfflineChat

/-- Why a text is no URL. -/
inductive UrlError where
  /-- It has no scheme, and there is nothing it could be relative to. -/
  | noScheme
  | emptyHost
  | badDomain
  | badPort
  | badAddress
  | badGroups
  | badHostCharacter
deriving DecidableEq, Repr

namespace UrlError

/-- The wording of an error. -/
def message : UrlError → String
  | .noScheme => "relative URL without a base"
  | .emptyHost => "empty host"
  | .badDomain => "invalid international domain name"
  | .badPort => "invalid port number"
  | .badAddress => "invalid IPv4 address"
  | .badGroups => "invalid IPv6 address"
  | .badHostCharacter => "invalid domain character"

end UrlError

/-- What is known of a scheme. -/
inductive SchemeKind where
  /-- Files of this machine. -/
  | file
  /-- A scheme of the web, whose URLs always name a host. -/
  | web
  | other
deriving DecidableEq, Repr

namespace SchemeKind

/-- The kind of a scheme. -/
def ofName (scheme : String) : SchemeKind :=
  if scheme = "file" then .file
  else if scheme ∈ ["http", "https", "ws", "wss", "ftp"] then .web
  else .other

/-- Whether the backslash separates segments as the slash does. -/
def isSpecial (k : SchemeKind) : Bool := k ≠ .other

end SchemeKind

/-- The host of a URL. -/
inductive UrlHost where
  /-- A name; the empty one names this machine, or nothing. -/
  | name (s : String)
  /-- Four octets. -/
  | address (n : Nat)
  /-- Eight groups. -/
  | groups (gs : List Nat)
deriving DecidableEq, Repr

namespace UrlHost

/-- The written form of a host. -/
def text : UrlHost → String
  | .name s => s
  | .address n => Url.addressText n
  | .groups gs => "[" ++ Url.addressOfGroupsText gs ++ "]"

end UrlHost

/-- The path of a URL. -/
inductive UrlPath where
  /-- A text that no other URL can be relative to. -/
  | rootless (s : String)
  /-- Segments below the root; none at all is the empty path. -/
  | rooted (segments : List String)
deriving DecidableEq, Repr

namespace UrlPath

/-- The written form of a path. -/
def text : UrlPath → String
  | .rootless s => s
  | .rooted segments => String.join (segments.map ("/" ++ ·))

end UrlPath

/-- A URL. -/
structure Url where
  scheme : String
  username : String
  password : String
  /-- The host, if the URL has a place for one. -/
  host : Option UrlHost
  /-- The port, unless it is the usual one of the scheme. -/
  port : Option Nat
  path : UrlPath
  query : Option String
  fragment : Option String
deriving DecidableEq, Repr

namespace Url

/-- The usual port of a scheme. -/
def usualPort? (scheme : String) : Option Nat :=
  [("http", 80), ("https", 443), ("ws", 80), ("wss", 443), ("ftp", 21)].lookup scheme

/-- The kind of the URL's scheme. -/
def kind (u : Url) : SchemeKind := .ofName u.scheme

/-- The user's part before the host. -/
def credentials (u : Url) : String :=
  if u.username = "" ∧ u.password = "" then ""
  else u.username ++ (if u.password = "" then "" else ":" ++ u.password) ++ "@"

/-- The part from the slashes to the port.  A path that could be taken for one is told apart by a
dot. -/
def authority (u : Url) : String :=
  match u.host with
  | some h => "//" ++ u.credentials ++ h.text ++ (u.port.map fun p => ":" ++ toString p).getD ""
  | none => match u.path with
    | .rooted ("" :: _ :: _) => "/."
    | _ => ""

/-- The path and the query: what a request asks the host for. -/
def target (u : Url) : String :=
  u.path.text ++ (u.query.map ("?" ++ ·)).getD ""

/-- The written form of a URL. -/
def text (u : Url) : String :=
  u.scheme ++ ":" ++ u.authority ++ u.target ++ (u.fragment.map ("#" ++ ·)).getD ""

end Url
end OfflineChat
