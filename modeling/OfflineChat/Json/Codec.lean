import OfflineChat.Dict
import OfflineChat.Json.Reject

/-! # Reading and writing values

A `Codec` says how the values of a type are written as JSON and how they are
read back from a document.  Reading takes the room left for nesting: a text may
nest 127 levels deep where it is read, and to any depth where it is passed over.
`Codec.decode` reads a whole text.
-/
namespace OfflineChat

/-- How the values of a type are written and read. -/
structure Codec (α : Type) where
  write : α → Json
  /-- Read a document, with so much room left for nesting. -/
  read : Nat → Document → Except Reject α

namespace Codec

variable {α : Type}

/-- The room for nesting at the start of a text. -/
def fullRoom : Nat := 128

/-- The room inside one more bracket, if the text may nest that deep. -/
def enter (room : Nat) : Except Reject Nat :=
  if room ≤ 1 then .error .malformed else .ok (room - 1)

/-- The refusal of a document that is not of the kind wanted. -/
def mismatch (expected : String) (d : Document) : Reject :=
  match d.found? with
  | some found => .wrongType found expected
  | none => .malformed

/-- Refuse unless the brackets close. -/
def closing (closed : Bool) (a : α) : Except Reject α :=
  if closed then .ok a else .error .malformed

/-- A truth value. -/
def bool : Codec Bool where
  write := .bool
  read _ d := match d with
    | .bool b => .ok b
    | d => .error (mismatch "a boolean" d)

/-- A text. -/
def string : Codec String where
  write := .str
  read _ d := match d with
    | .str (some s) => .ok s
    | d => .error (mismatch "a string" d)

/-- An integer from `lo` to `hi`, of a kind with the given name. -/
def integer (lo hi : Int) (name : String) : Codec Int where
  write := .int
  read _ d := match d with
    | .number n => match n.value? with
      | some (.int i) =>
        if lo ≤ i ∧ i ≤ hi then .ok i else .error (.wrongValue (.int i) name)
      | some (.float x) => .error (.wrongType (.float x) name)
      | none => .error .malformed
    | d => .error (mismatch name d)

/-- An integer of sixty-four bits. -/
def int64 : Codec Int := integer (-0x8000000000000000) 0x7FFFFFFFFFFFFFFF "i64"

/-- A natural from zero to `hi`, of a kind with the given name. -/
def natural (hi : Nat) (name : String) : Codec Nat where
  write n := .int n
  read room d := ((integer 0 hi name).read room d).map Int.toNat

/-- A natural of thirty-two bits. -/
def nat32 : Codec Nat := natural 0xFFFFFFFF "u32"

/-- A natural of sixty-four bits. -/
def nat64 : Codec Nat := natural 0xFFFFFFFFFFFFFFFF "u64"

/-- A count. -/
def count : Codec Nat := natural 0xFFFFFFFFFFFFFFFF "usize"

/-- A number of the single format. -/
def single : Codec Binary where
  write x := .float .single x
  read _ d := match d with
    | .number n => match n.value? with
      | some (.int i) => .ok (Binary.ofInt .single i)
      | some (.float x) => .ok (x.toFormat .single)
      | none => .error .malformed
    | d => .error (mismatch "f32" d)

/-- A value or null. -/
def option (c : Codec α) : Codec (Option α) where
  write := Json.ofOption c.write
  read room d := match d with
    | .null => .ok none
    | d => (c.read room d).map some

/-- Read items one after the other. -/
def readItems (c : Codec α) (room : Nat) : List Document → Except Reject (List α)
  | [] => .ok []
  | d :: rest => do
    let a ← c.read room d
    let as ← readItems c room rest
    pure (a :: as)

/-- A list of values. -/
def list (c : Codec α) : Codec (List α) where
  write as := .arr (as.map c.write)
  read room d := match d with
    | .arr items closed => do
      let as ← readItems c (← enter room) items
      closing closed as
    | d => .error (mismatch "a sequence" d)

/-- Read members one after the other into a dictionary. -/
def readEntries (c : Codec α) (room : Nat) :
    Dict α → List (Option String × Document) → Except Reject (Dict α)
  | acc, [] => .ok acc
  | _, (none, _) :: _ => .error .malformed
  | acc, (some key, d) :: rest => do
    let a ← c.read room d
    readEntries c room (acc.insert key a) rest

/-- A dictionary of values; the last member of a name counts. -/
def dict (c : Codec α) : Codec (Dict α) where
  write d := .obj (d.entries.map fun e => (e.1, c.write e.2))
  read room d := match d with
    | .obj members ending => do
      let entries ← readEntries c (← enter room) .empty members
      closing (ending == .closed) entries
    | d => .error (mismatch "a map" d)

/-- One of a few values, each with a name.  It is written as its name; an object whose one member
has the name and no value is read as well. -/
def variant [DecidableEq α] (names : List (String × α)) (name : α → String) : Codec α where
  write a := .str (name a)
  read room d :=
    let pick (s : String) : Except Reject α :=
      match names.lookup s with
      | some a => .ok a
      | none => .error (.unknownVariant s (names.map Prod.fst))
    match d with
    | .str (some s) => pick s
    | .obj members ending => do
      let _ ← enter room
      match members with
      | (some key, d) :: rest =>
        let a ← pick key
        match d with
        | .null => closing (rest.isEmpty && ending == .closed) a
        | d => .error (mismatch "unit" d)
      | _ => match ending with
        | .cut (some found) => .error (.wrongType found "variant identifier")
        | _ => .error .malformed
    | _ => .error .malformed

/-- Bind a name in a list of members that increases. -/
def putMember (key : String) (v : Json) (members : List (String × Json)) : List (String × Json) :=
  Dict.insertEntry key v members

mutual

/-- Read any value. -/
def readAny (room : Nat) : Document → Except Reject Json
  | .null => .ok .null
  | .bool b => .ok (.bool b)
  | .number n => match n.value? with
    | some (.int i) => .ok (.int i)
    | some (.float x) => .ok (.float .double x)
    | none => .error .malformed
  | .str (some s) => .ok (.str s)
  | .str none => .error .malformed
  | .arr items closed => do
    let vs ← readAnyItems (← enter room) items
    closing closed (.arr vs)
  | .obj members ending => do
    let ms ← readAnyMembers (← enter room) [] members
    closing (ending == .closed) (.obj ms)
  | .broken => .error .malformed

/-- Read any items. -/
def readAnyItems (room : Nat) : List Document → Except Reject (List Json)
  | [] => .ok []
  | d :: rest => do
    let v ← readAny room d
    let vs ← readAnyItems room rest
    pure (v :: vs)

/-- Read any members, the last one of a name counting. -/
def readAnyMembers (room : Nat) (acc : List (String × Json)) :
    List (Option String × Document) → Except Reject (List (String × Json))
  | [] => .ok acc
  | (none, _) :: _ => .error .malformed
  | (some key, d) :: rest => do
    let v ← readAny room d
    readAnyMembers room (putMember key v acc) rest

end

/-- Any value.  The members of an object are kept by increasing name. -/
def any : Codec Json where
  write := id
  read := readAny

/-- Read a whole text. -/
def decode (c : Codec α) (text : String) : Except Reject α := do
  let (d, ended) := Document.ofText text
  let a ← c.read fullRoom d
  closing ended a

/-- The text of a value. -/
def encode (c : Codec α) (a : α) : String := (c.write a).render

end Codec
end OfflineChat
