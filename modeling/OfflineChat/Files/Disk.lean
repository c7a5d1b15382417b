import OfflineChat.Cache.Table
import OfflineChat.Files.Path
import OfflineChat.Text.Utf8

/-! # The file system

Directories, files and cache databases by path, with the operations the program
makes on them.  An operation that does not fit what is there fails and leaves the
file system as it was.  One that fits can still meet a mishap: then a file is
neither moved nor removed, and of a file that is written a part may stay.
-/
namespace OfflineChat

/-- Why the file system refuses. -/
inductive DiskError where
  | notFound
  | alreadyThere
  | notDirectory
  | isDirectory
  | notText
  /-- The machine has trouble of its own. -/
  | trouble (reason : String)
deriving DecidableEq, Repr

namespace DiskError

/-- The wording of a refusal. -/
def message : DiskError → String
  | .notFound => "No such file or directory (os error 2)"
  | .alreadyThere => "File exists (os error 17)"
  | .notDirectory => "Not a directory (os error 20)"
  | .isDirectory => "Is a directory (os error 21)"
  | .notText => "stream did not contain valid UTF-8"
  | .trouble reason => reason

/-- The failure of an operation that the file system refuses. -/
def failure (e : DiskError) : Failure := .disk e.message

end DiskError

/-- What goes wrong while a file is written. -/
structure Mishap where
  reason : String
  /-- How many octets are written by then; `none` if the file is not touched. -/
  written : Option Nat
deriving DecidableEq, Repr

/-- What is at a path. -/
inductive DiskNode where
  | directory
  | file (content : ByteArray)
  | database (cache : Cache)

/-- A file system. -/
structure Disk where
  nodes : Dict DiskNode

namespace Disk

/-- The segments of a path with each `..` carried out. -/
def resolve (segments : List String) : List String :=
  (segments.foldl (fun acc s => if s = ".." then acc.drop 1 else s :: acc) []).reverse

/-- The key of resolved segments. -/
def keyOf (segments : List String) : String := String.intercalate "/" segments

/-- What is at resolved segments; the root is a directory. -/
def at? (d : Disk) (segments : List String) : Option DiskNode :=
  if segments.isEmpty then some .directory else d.nodes.find? (keyOf segments)

/-- What is at a path. -/
def node? (d : Disk) (p : Path) : Option DiskNode := d.at? (resolve p.segments)

/-- Whether a path is a directory. -/
def isDirectory (d : Disk) (p : Path) : Bool :=
  match d.node? p with
  | some .directory => true
  | _ => false

/-- Put a node at a path. -/
def put (d : Disk) (p : Path) (n : DiskNode) : Disk :=
  ⟨d.nodes.insert (keyOf (resolve p.segments)) n⟩

/-- What is in the way of a new entry with the given segments: each directory above it must
be there. -/
def obstacle? (d : Disk) : List String → List String → Option DiskError
  | _, [] => none
  | _, [_] => none
  | above, s :: rest =>
    match d.at? (above ++ [s]) with
    | some .directory => obstacle? d (above ++ [s]) rest
    | some _ => some .notDirectory
    | none => some .notFound

/-- Make each directory of a path that is not there. -/
def makeDirectories (d : Disk) (p : Path) : Except DiskError Disk :=
  go d [] (resolve p.segments)
where
  /-- Go down the segments below `above`. -/
  go (d : Disk) (above : List String) : List String → Except DiskError Disk
    | [] => .ok d
    | s :: rest =>
      match d.at? (above ++ [s]) with
      | some .directory => go d (above ++ [s]) rest
      | some _ => .error (if rest.isEmpty then .alreadyThere else .notDirectory)
      | none => go ⟨d.nodes.insert (keyOf (above ++ [s])) .directory⟩ (above ++ [s]) rest

/-- Why no file can be put at a path, if so.  `misfit` is said of a path that can only be a
directory. -/
def refusal? (d : Disk) (p : Path) (misfit : DiskError) : Option DiskError :=
  if p.text = "" then some .notFound
  else match d.obstacle? [] (resolve p.segments) with
    | some e => some e
    | none =>
      if d.isDirectory p then some .isDirectory
      else if p.namesDirectory then some misfit
      else none

/-- Write a file, in place of the one there. -/
def write (d : Disk) (p : Path) (content : ByteArray) (mishap : Option Mishap := none) :
    Except DiskError Unit × Disk :=
  match d.refusal? p .isDirectory with
  | some e => (.error e, d)
  | none => match mishap with
    | none => (.ok (), d.put p (.file content))
    | some m =>
      (.error (.trouble m.reason), match m.written with
        | none => d
        | some n => d.put p (.file (content.extract 0 n)))

/-- What is at a path.  A path that can only be a directory is no file. -/
def look (d : Disk) (p : Path) : Except DiskError DiskNode :=
  if p.text = "" then .error .notFound
  else match d.obstacle? [] (resolve p.segments) with
    | some e => .error e
    | none => match d.node? p with
      | none => .error .notFound
      | some .directory => .ok .directory
      | some n => if p.namesDirectory then .error .notDirectory else .ok n

/-- Take out what is at a path. -/
def drop (d : Disk) (p : Path) : Disk := ⟨d.nodes.erase (keyOf (resolve p.segments))⟩

/-- Move a file to another path, in place of the file there. -/
def rename (d : Disk) (source target : Path) (mishap : Option String := none) :
    Except DiskError Disk :=
  match d.look source with
  | .error e => .error e
  | .ok .directory => .error .isDirectory
  | .ok n => match d.refusal? target .notDirectory with
    | some e => .error e
    | none => match mishap with
      | some reason => .error (.trouble reason)
      | none => .ok ((d.drop source).put target n)

/-- Remove a file. -/
def remove (d : Disk) (p : Path) (mishap : Option String := none) : Except DiskError Disk :=
  match d.look p with
  | .error e => .error e
  | .ok .directory => .error .isDirectory
  | .ok _ => match mishap with
    | some reason => .error (.trouble reason)
    | none => .ok (d.drop p)

/-- The content of a file. -/
def read (d : Disk) (p : Path) : Except DiskError ByteArray :=
  match d.look p with
  | .error e => .error e
  | .ok (.file content) => .ok content
  | .ok .directory => .error .isDirectory
  | .ok (.database _) => .ok ByteArray.empty

/-- The content of a file as a text. -/
def readText (d : Disk) (p : Path) : Except DiskError String :=
  match d.read p with
  | .error e => .error e
  | .ok content => match Text.decode? content.toList with
    | some s => .ok s
    | none => .error .notText

end Disk

namespace Cache

/-- Open the cache at a path, making it and the directories above it if they are not there. -/
def openAt (d : Disk) (p : Path) : Except Failure (Disk × Cache) := do
  let d ← match p.parent? with
    | none => .ok d
    | some parent => match d.makeDirectories parent with
      | .ok d => .ok d
      | .error e =>
        .error (.storage ("Failed to create parent directory for database: " ++ e.message))
  let opened (c : Cache) : Except Failure (Disk × Cache) := .ok (d.put p (.database c), c)
  match d.node? p with
  | none => opened fresh
  | some (.database c) => opened c.opened
  | some (.file content) =>
    if content.isEmpty then opened fresh
    else .error (.storage "Failed to read schema version: file is not a database")
  | some .directory =>
    .error (.storage ("Failed to open database: unable to open database file: " ++ p.text))

end Cache
end OfflineChat
