import OfflineChat.Url.Parser

/-! # Changing URLs

Closing a path with a slash, going down into it, and moving a URL to another
scheme.
-/
namespace OfflineChat

namespace UrlPath

/-- The path with a slash at its end. -/
def closed : UrlPath → UrlPath
  | .rootless s =>
    if s = "" then .rootless "%2F"
    else if s.toList.getLast? == some '/' then .rootless s
    else .rootless (s ++ "/")
  | .rooted segments =>
    if segments.getLast? = some "" then .rooted segments else .rooted (segments ++ [""])

end UrlPath

namespace Url

/-- The URL with a slash at the end of its path. -/
def closed (u : Url) : Url := { u with path := u.path.closed }

/-- Segments without an empty one at the end, the root apart. -/
def opened (segments : List String) : List String :=
  if segments.length > 1 ∧ segments.getLast? = some "" then segments.dropLast else segments

/-- The written form of a segment given by itself. -/
def writtenSegment (k : SchemeKind) (s : String) : String :=
  String.ofList (percentEncode (if k.isSpecial then inSpecialSegment else inSegment)
    (withoutBreaks s.toList))

/-- Go down one segment.  A dot or two lead nowhere. -/
def descend (k : SchemeKind) (path : List String) (s : String) : List String :=
  if s = "." ∨ s = ".." then path
  else
    let path := addSegment k (if path = [""] then [] else path) true (writtenSegment k s)
    if k = .file then withoutLeadingEmpty path else path

/-- The URL of something below another; `none` if nothing can be below it. -/
def below? (u : Url) (segments : List String) : Option Url :=
  match u.path with
  | .rootless _ => none
  | .rooted path => some { u with path := .rooted (segments.foldl (descend u.kind) (opened path)) }

/-- The URL moved to a scheme of the web; `none` if that would change what it is. -/
def withWebScheme? (u : Url) (scheme : String) : Option Url :=
  if u.kind = .other ∨ u.host = none ∨ u.host = some (.name "") then none
  else some { u with scheme := scheme, port := u.port.filter fun p => usualPort? scheme ≠ some p }

/-- The URL with one more name and value in its query. -/
def withParameter (u : Url) (name value : String) : Url :=
  let pair := formEncode name ++ "=" ++ formEncode value
  { u with query := some (match u.query with
    | none | some "" => pair
    | some q => q ++ "&" ++ pair) }

end Url
end OfflineChat
