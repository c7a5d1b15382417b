import OfflineChat.Files.Disk

/-! # Preferences

A value that is kept in a file and followed by subscribers.  Memory, file and
subscribers change together: an operation that the file system refuses changes
none of them, though it may leave a new file beside the old one.
-/
namespace OfflineChat

/-- What a store of preferences holds: how its values are written and read, and the value when
there is no file. -/
structure PreferenceKind (α : Type) where
  codec : Codec α
  initial : α

/-- A store of preferences: its file, its value, and how many changes it has published. -/
structure Preferences (α : Type) where
  path : Path
  value : α
  published : Nat

/-- What goes wrong with the file of a store, if anything. -/
structure Trouble where
  writing : Option Mishap
  moving : Option String
  removing : Option String
deriving DecidableEq, Repr

/-- Nothing goes wrong. -/
def Trouble.none : Trouble := ⟨Option.none, Option.none, Option.none⟩

/-- A subscriber: the number of changes it has seen. -/
structure Subscriber where
  seen : Nat
deriving DecidableEq, Repr

namespace Preferences

variable {α : Type}

/-- The value a file holds.  A file that cannot be read as one holds the initial value. -/
def load (k : PreferenceKind α) (d : Disk) (path : Path) : α :=
  match d.readText path with
  | .error _ => k.initial
  | .ok text => match k.codec.decode text with
    | .ok a => a
    | .error _ => k.initial

/-- Open the store at a path, making the directories above it. -/
def openAt (k : PreferenceKind α) (d : Disk) (path : Path) :
    Except Failure (Disk × Preferences α) :=
  let made := match path.parent? with
    | none => Except.ok d
    | some parent => d.makeDirectories parent
  match made with
  | .error e => .error e.failure
  | .ok d => .ok (d, ⟨path, load k d path, 0⟩)

/-- The text a value is kept as. -/
def fileText (k : PreferenceKind α) (a : α) : String := (k.codec.write a).pretty

/-- The path that a value is written to before it is moved into its place. -/
def beside (path : Path) : Path := path.withExtension "json.tmp"

/-- Write a value next to the file, and move it into its place.  A value that cannot be moved stays
where it is. -/
def persist (k : PreferenceKind α) (d : Disk) (path : Path) (a : α) (t : Trouble) :
    Except DiskError Unit × Disk :=
  match d.write (beside path) (fileText k a).toUTF8 t.writing with
  | (.error e, d) => (.error e, d)
  | (.ok _, d) => match d.rename (beside path) path t.moving with
    | .error e => (.error e, d)
    | .ok d => (.ok (), d)

/-- Publish a value. -/
def publish (p : Preferences α) (a : α) : Preferences α :=
  { p with value := a, published := p.published + 1 }

/-- Change the value: write what it becomes, then publish it.  The new value, and the store and the
disk after it, whether it could be written or not. -/
def update (k : PreferenceKind α) (d : Disk) (p : Preferences α) (edit : α → α)
    (t : Trouble := .none) : Except Failure α × Preferences α × Disk :=
  match persist k d p.path (edit p.value) t with
  | (.error e, d) => (.error e.failure, p, d)
  | (.ok _, d) => (.ok (edit p.value), p.publish (edit p.value), d)

/-- Remove the file and go back to the initial value.  The store and the disk after it, whether the
file could be removed or not. -/
def reset (k : PreferenceKind α) (d : Disk) (p : Preferences α) (t : Trouble := .none) :
    Except Failure Unit × Preferences α × Disk :=
  match d.remove p.path t.removing with
  | .ok d => (.ok (), p.publish k.initial, d)
  | .error .notFound => (.ok (), p.publish k.initial, d)
  | .error e => (.error e.failure, p, d)

/-- Subscribe to changes from now on. -/
def subscribe (p : Preferences α) : Subscriber := ⟨p.published⟩

/-- Whether a subscriber has changes to see. -/
def hasChanged (p : Preferences α) (s : Subscriber) : Bool := decide (s.seen < p.published)

/-- A subscriber looks: it has seen every change. -/
def look (p : Preferences α) : Subscriber := ⟨p.published⟩

end Preferences
end OfflineChat
