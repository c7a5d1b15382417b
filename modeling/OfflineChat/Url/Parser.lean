import OfflineChat.Text.Split
import OfflineChat.Url.Basic
import OfflineChat.Url.Domain

/-! # Reading URLs

`Url.ofText` reads a text as a URL, as forgiving as browsers are: blanks around
it do not count, nor do tabs and line ends in it; parts are encoded where they
have to be; dots in a path are carried out; and the host of a web URL is brought
into its one usual form.
-/
namespace OfflineChat
namespace Url

/-- Cut a text where a condition first holds. -/
def cutWhere (p : Char → Bool) (cs : List Char) : List Char × List Char :=
  (cs.takeWhile (!p ·), cs.dropWhile (!p ·))

/-- Cut a text at the last of a character, which is left out. -/
def cutAtLast (c : Char) (cs : List Char) : Option (List Char × List Char) :=
  let back := cs.reverse
  match back.dropWhile (· != c) with
  | _ :: front => some (front.reverse, (back.takeWhile (· != c)).reverse)
  | [] => none

/-- Drop tabs and line ends. -/
def withoutBreaks (cs : List Char) : List Char :=
  cs.filter fun c => c != '\t' && c != '\n' && c != '\r'

/-- Whether a character ends the part before the path. -/
def endsAuthority (k : SchemeKind) (c : Char) : Bool :=
  c == '/' || c == '?' || c == '#' || (k.isSpecial && c == '\\')

/-- Whether a character separates the segments of a path. -/
def separates (k : SchemeKind) (c : Char) : Bool := c == '/' || (k.isSpecial && c == '\\')

/-! ## The scheme -/

/-- The scheme at the front of a text, in lower case, and what follows its colon. -/
def scheme? (cs : List Char) : Option (String × List Char) :=
  let (name, rest) := cutWhere (· == ':') cs
  match name, rest with
  | c :: _, _ :: rest =>
    if c.isAlpha && name.all fun c => c.isAlphanum || ['+', '-', '.'].contains c then
      some (Text.asciiLower (String.ofList name), rest)
    else none
  | _, _ => none

/-! ## The host -/

/-- Characters that no host of an unknown scheme holds. -/
def isForbiddenInHost (c : Char) : Bool :=
  ['\x00', '\t', '\n', '\r', ' ', '#', '/', ':', '<', '>', '?', '@', '[', '\\', ']', '^',
    '|'].contains c

/-- A host of eight groups between brackets. -/
def bracketed (cs : List Char) : Except UrlError UrlHost :=
  match cs.reverse with
  | ']' :: inner => match readGroups? inner.reverse with
    | some gs => .ok (.groups gs)
    | none => .error .badGroups
  | _ => .error .badGroups

/-- The host of a web URL. -/
def webHost (cs : List Char) : Except UrlError UrlHost :=
  match cs with
  | '[' :: rest => bracketed rest
  | _ => match Domain.ofOctets? (percentDecode cs) with
    | none => .error .badDomain
    | some name =>
      if name = "" then .error .emptyHost
      else if endsInNumber name.toList then
        match readAddress? name.toList with
        | some n => .ok (.address n)
        | none => .error .badAddress
      else .ok (.name name)

/-- The host of a URL of another scheme. -/
def otherHost (cs : List Char) : Except UrlError UrlHost :=
  match cs with
  | '[' :: rest => bracketed rest
  | _ =>
    if cs.any isForbiddenInHost then .error .badHostCharacter
    else .ok (.name (String.ofList (percentEncode isControl cs)))

/-- Cut a text at the first colon outside brackets. -/
def cutAtPort : Bool → List Char → List Char × List Char
  | _, [] => ([], [])
  | inside, c :: rest =>
    if c = ':' ∧ inside = false then ([], c :: rest)
    else
      let r := cutAtPort (if c = '[' then true else if c = ']' then false else inside) rest
      (c :: r.1, r.2)

/-- The port after a colon, unless it is the usual one of the scheme, and what follows it. -/
def readPort (scheme : String) (cs : List Char) : Except UrlError (Option Nat × List Char) :=
  let (ds, rest) := cutWhere (!·.isDigit) cs
  let port := Decimal.natOf ds
  let kept := if ds.isEmpty ∨ usualPort? scheme = some port then none else some port
  if 65535 < port then .error .badPort
  else match rest with
    | [] => .ok (kept, [])
    | c :: _ => if c = '\\' then .ok (kept, rest) else .error .badPort

/-- What stands between the slashes and the path. -/
structure Authority where
  username : String
  password : String
  host : UrlHost
  port : Option Nat

/-- Read what stands between the slashes and the path, and give what follows. -/
def readAuthority (scheme : String) (cs : List Char) :
    Except UrlError (Authority × List Char) := do
  let k := SchemeKind.ofName scheme
  let (part, rest) := cutWhere (endsAuthority k) cs
  let (info, place) := (cutAtLast '@' part).getD ([], part)
  if (cutAtLast '@' part).isSome ∧ info.isEmpty ∧ place.isEmpty ∧ !rest.isEmpty then
    throw .emptyHost
  let (name, secret) := cutWhere (· == ':') info
  let (host, portPart) := cutAtPort false place
  let username := String.ofList (percentEncode inCredentials name)
  let password := String.ofList (percentEncode inCredentials (secret.drop 1))
  if host.isEmpty ∧ k = .web then throw .emptyHost
  let h ← if k = .web then webHost host else otherHost host
  if h = .name "" ∧ !portPart.isEmpty then throw .emptyHost
  let (port, left) ← match portPart with
    | _ :: digits => readPort scheme digits
    | [] => pure (none, [])
  if h = .name "" ∧ (username ≠ "" ∨ password ≠ "") then throw .emptyHost
  pure (⟨username, password, h, port⟩, left ++ rest)

/-! ## The path -/

/-- The ways to write the segment for the directory itself. -/
def isHere (s : String) : Bool := s ∈ [".", "%2e", "%2E"]

/-- The ways to write the segment for the directory above. -/
def isAbove (s : String) : Bool :=
  Text.asciiLower s ∈ ["..", "%2e%2e", "%2e.", ".%2e"]

/-- Whether a segment names a drive. -/
def isDrive (s : String) : Bool :=
  match s.toList with
  | [c, d] => c.isAlpha && (d == ':' || d == '|')
  | _ => false

/-- A path without its last segment; a drive stays. -/
def shorten (k : SchemeKind) (path : List String) : List String :=
  match path with
  | [s] => if k = .file ∧ isDrive s then path else []
  | _ => path.dropLast

/-- Add a written segment to a path.  Dots are carried out; at the end of a path they leave an
empty segment. -/
def addSegment (k : SchemeKind) (path : List String) (last : Bool) (s : String) : List String :=
  if isAbove s then shorten k path ++ (if last then [""] else [])
  else if isHere s then path ++ (if last then [""] else [])
  else if k = .file ∧ path.isEmpty ∧ isDrive s then [String.ofList (s.toList.take 1 ++ [':'])]
  else path ++ [s]

/-- Add written segments to a path one after the other. -/
def addSegments (k : SchemeKind) (path : List String) : List String → List String
  | [] => path
  | [s] => addSegment k path true s
  | s :: t :: rest => addSegments k (addSegment k path false s) (t :: rest)

/-- Cut a text at each character of a class. -/
def splitWhere (p : Char → Bool) : List Char → List (List Char)
  | [] => [[]]
  | c :: rest =>
    if p c then [] :: splitWhere p rest
    else match splitWhere p rest with
      | [] => [[c]]
      | s :: ss => (c :: s) :: ss

/-- The path of a file without empty segments at its front. -/
def withoutLeadingEmpty : List String → List String
  | "" :: s :: rest => withoutLeadingEmpty (s :: rest)
  | path => path

/-- The segments of a text below the root. -/
def readSegments (k : SchemeKind) (cs : List Char) : List String :=
  let raw := (splitWhere (separates k) cs).map fun s => String.ofList (percentEncode inPath s)
  let path := addSegments k [] raw
  if k = .file then withoutLeadingEmpty path else path

/-- The path after a host. -/
def readPath (k : SchemeKind) (cs : List Char) : List String :=
  match cs with
  | [] => if k.isSpecial then readSegments k [] else []
  | c :: rest => if separates k c then readSegments k rest else readSegments k (c :: rest)

/-! ## The whole -/

/-- Cut a text in front of its query or fragment. -/
def cutAtQuery (cs : List Char) : List Char × List Char :=
  cutWhere (fun c => c == '?' || c == '#') cs

/-- The written query and fragment of what follows a path. -/
def readTail (k : SchemeKind) (cs : List Char) : Option String × Option String :=
  let (q, f) := cutWhere (· == '#') cs
  let set := if k.isSpecial then inSpecialQuery else inQuery
  let query := match q with
    | [] => none
    | _ :: q => some (String.ofList (percentEncode set q))
  let fragment := match f with
    | [] => none
    | _ :: f => some (String.ofList (percentEncode inFragment f))
  (query, fragment)

/-- Put the parts of a URL together, with the path still to be read. -/
def assemble (scheme : String) (a : Option Authority) (readPath : List Char → UrlPath)
    (cs : List Char) : Url :=
  let (path, tail) := cutAtQuery cs
  let (query, fragment) := readTail (.ofName scheme) tail
  { scheme := scheme
    username := (a.map (·.username)).getD ""
    password := (a.map (·.password)).getD ""
    host := a.map (·.host)
    port := a.bind (·.port)
    path := readPath path
    query := query
    fragment := fragment }

/-- The URL of a file on a host. -/
def fileOn (host : UrlHost) (cs : List Char) : Url :=
  let u := assemble "file" (some ⟨"", "", host, none⟩) (fun p => .rooted (readPath .file p)) cs
  match u.path with
  | .rooted (s :: _) => if isDrive s then { u with host := some (.name "") } else u
  | _ => u

/-- The URL of a file. -/
def readFile (cs : List Char) : Except UrlError Url :=
  match cs with
  | a :: b :: rest =>
    if separates .file a ∧ separates .file b then
      let (host, after) := cutWhere (endsAuthority .file) rest
      if host.isEmpty ∨ isDrive (String.ofList host) then .ok (fileOn (.name "") rest)
      else do
        let h ← webHost host
        pure (fileOn (if h = .name "localhost" then .name "" else h) after)
    else .ok (fileOn (.name "") cs)
  | _ => .ok (fileOn (.name "") cs)

/-- The URL of another scheme. -/
def readOther (scheme : String) (cs : List Char) : Except UrlError Url :=
  match cs with
  | '/' :: '/' :: rest => do
    let (a, rest) ← readAuthority scheme rest
    pure (assemble scheme (some a) (fun p => .rooted (readPath .other p)) rest)
  | '/' :: rest => .ok (assemble scheme none (fun p => .rooted (readSegments .other p)) rest)
  | _ => .ok (assemble scheme none
      (fun p => .rootless (String.ofList (percentEncode isControl p))) cs)

/-- Read a text as a URL. -/
def ofText (s : String) : Except UrlError Url :=
  let cs := withoutBreaks (Text.strip (fun c => decide (c.toNat ≤ 0x20)) s.toList)
  match scheme? cs with
  | none => .error .noScheme
  | some (scheme, rest) =>
    match SchemeKind.ofName scheme with
    | .file => readFile rest
    | .web => do
      let (a, rest) ← readAuthority scheme (rest.dropWhile (separates .web))
      pure (assemble scheme (some a) (fun p => .rooted (readPath .web p)) rest)
    | .other => readOther scheme rest

end Url
end OfflineChat
