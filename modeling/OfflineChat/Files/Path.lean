import OfflineChat.Text.Split

/-! # Paths

Names of files: segments between slashes, of which empty ones and single dots
name nothing.  `name?`, `extension?` and `parent?` look at the last segment that
names something.
-/
namespace OfflineChat

/-- The name of a file or directory. -/
structure Path where
  text : String
deriving DecidableEq, Repr, Inhabited

namespace Path

/-- Whether the path starts at the root. -/
def isAbsolute (p : Path) : Bool := p.text.toList.head? == some '/'

/-- The segments that name something. -/
def segments (p : Path) : List String :=
  ((Text.splitOn '/' p.text.toList).map String.ofList).filter fun s => s != "" && s != "."

/-- Whether the path can only be a directory: it is empty, or ends in a slash or in dots that stand
for one. -/
def namesDirectory (p : Path) : Bool :=
  match (Text.splitOn '/' p.text.toList).getLast? with
  | some [] | some ['.'] | some ['.', '.'] | none => true
  | _ => false

/-- The last segment, unless it goes up. -/
def name? (p : Path) : Option String :=
  match p.segments.getLast? with
  | some ".." => none
  | s => s

/-- A file name cut at its last dot; a dot at the front is part of the name. -/
def cutName (name : String) : String × Option String :=
  let r := name.toList.reverse
  let ext := r.takeWhile (· != '.')
  match r.dropWhile (· != '.') with
  | _ :: stem => if stem.isEmpty then (name, none)
    else (String.ofList stem.reverse, some (String.ofList ext.reverse))
  | [] => (name, none)

/-- What follows the last dot of the file name. -/
def extension? (p : Path) : Option String := p.name?.bind fun n => (cutName n).2

/-- Whether the path starts with a dot that stands for the current directory. -/
def startsHere (p : Path) : Bool :=
  match p.text.toList with
  | ['.'] => true
  | '.' :: '/' :: _ => true
  | _ => false

/-- The path without what it ends in; the root and the empty path have none. -/
def parent? (p : Path) : Option Path :=
  let body := String.intercalate "/" p.segments.dropLast
  if p.segments.isEmpty then (if p.startsHere then some ⟨""⟩ else none)
  else if p.isAbsolute then some ⟨"/" ++ body⟩
  else if p.startsHere then some ⟨if body = "" then "." else "./" ++ body⟩
  else some ⟨body⟩

/-- The path after the paths of the directories it goes through, from the top. -/
def lineage (p : Path) : List Path :=
  let top := if p.isAbsolute then "/" else ""
  (List.range p.segments.length).map fun n =>
    ⟨top ++ String.intercalate "/" (p.segments.take (n + 1))⟩

/-- A path inside another; an absolute one stands for itself. -/
def join (p q : Path) : Path :=
  if q.isAbsolute || p.text = "" then q
  else if p.text.toList.getLast? == some '/' then ⟨p.text ++ q.text⟩
  else ⟨p.text ++ "/" ++ q.text⟩

/-- The path with another extension. -/
def withExtension (p : Path) (ext : String) : Path :=
  match p.name? with
  | none => p
  | some n =>
    let file := (cutName n).1 ++ "." ++ ext
    match p.parent? with
    | some d => d.join ⟨file⟩
    | none => ⟨file⟩

end Path
end OfflineChat
