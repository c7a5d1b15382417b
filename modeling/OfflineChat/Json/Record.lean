import OfflineChat.Json.Codec

/-! # Records

A record is read from the members of an object, in whatever order they stand,
or from the items of a list by position; it is written as an object.  A
`Fields` lists the fields of a record with the way each is read, so that one
description serves both directions and every format: `R α` is whatever says how
a value of `α` is read.  An open record keeps the members it has no field for.
-/
namespace OfflineChat

/-- A field of a record. -/
structure Field (R : Type → Type) (α : Type) where
  name : String
  kind : R α
  /-- The value of a field left out; `none` if it must be there. -/
  absent : Option α
  /-- Whether a list may end before it as well. -/
  endsLists : Bool
  /-- Whether the value is left out where it is written. -/
  omits : α → Bool

/-- The fields of a record, in their order. -/
inductive Fields (R : Type → Type) : List Type → Type 1 where
  | nil : Fields R []
  | cons {α : Type} {ts : List Type} (field : Field R α) (rest : Fields R ts) :
      Fields R (α :: ts)

/-- One value for each field. -/
def Values : List Type → Type
  | [] => Unit
  | α :: ts => α × Values ts

/-- One value for each field that has been met. -/
def Slots : List Type → Type
  | [] => Unit
  | α :: ts => Option α × Slots ts

namespace Field

variable {R : Type → Type} {α : Type}

/-- A field that must be there. -/
def required (name : String) (kind : R α) : Field R α :=
  ⟨name, kind, none, false, fun _ => false⟩

/-- A field with a value for when it is left out. -/
def defaulted (name : String) (kind : R α) (value : α) : Field R α :=
  ⟨name, kind, some value, true, fun _ => false⟩

/-- A field with a value for when it is left out, and left out itself where `omits` says so. -/
def omitted (name : String) (kind : R α) (value : α) (omits : α → Bool) : Field R α :=
  ⟨name, kind, some value, true, omits⟩

end Field

/-- A field that may be null or left out; it is always written. -/
def Field.nullable {α : Type} (name : String) (c : Codec α) : Field Codec (Option α) :=
  .defaulted name c.option none

/-- A field that may be null, or left out of an object; a list has to go up to it. -/
def Field.nullableMember {α : Type} (name : String) (c : Codec α) : Field Codec (Option α) :=
  { Field.nullable name c with endsLists := false }

namespace Field

variable {R : Type → Type} {α : Type}

/-- The value of a field that no member gave. -/
def missing (f : Field R α) (reason : Reject) : Except Reject α :=
  match f.absent with
  | some a => .ok a
  | none => .error reason

/-- The value of a field that a list is too short for. -/
def beyond (f : Field R α) (reason : Reject) : Except Reject α :=
  if f.endsLists then f.missing reason else .error reason

end Field

namespace Fields

variable {R : Type → Type} {ts : List Type}

/-- No field met yet. -/
def unmet : (ts : List Type) → Slots ts
  | [] => ()
  | _ :: ts => (none, unmet ts)

/-- How many fields there are. -/
def size : {ts : List Type} → Fields R ts → Nat
  | _, .nil => 0
  | _, .cons _ rest => rest.size + 1

/-- Whether a field has the name. -/
def has (key : String) : {ts : List Type} → Fields R ts → Bool
  | _, .nil => false
  | _, .cons f rest => f.name == key || rest.has key

/-- Another kind for every field. -/
def map {S : Type → Type} (f : {α : Type} → R α → S α) :
    {ts : List Type} → Fields R ts → Fields S ts
  | _, .nil => .nil
  | _, .cons ⟨name, kind, absent, endsLists, omits⟩ rest =>
    .cons ⟨name, f kind, absent, endsLists, omits⟩ (map f rest)

/-- Meet a member: read its value into the field of that name, which no earlier member may have
met.  `none` if there is no such field. -/
def meet {ε : Type} (key : String) (twice : ε) (read : {α : Type} → R α → Except ε α) :
    {ts : List Type} → Fields R ts → Slots ts → Option (Except ε (Slots ts))
  | _, .nil, _ => none
  | _, .cons f rest, (slot, slots) =>
    if f.name = key then
      some (match slot with
        | some _ => .error twice
        | none => (read f.kind).map fun a => (some a, slots))
    else (meet key twice read rest slots).map fun r => r.map fun s => (slot, s)

/-- The values of all fields once no member is left. -/
def settle : {ts : List Type} → Fields R ts → Slots ts → Except Reject (Values ts)
  | _, .nil, _ => .ok ()
  | _, .cons f rest, (slot, slots) => do
    let a ← match slot with
      | some a => .ok a
      | none => f.missing (.missingField f.name)
    let as ← settle rest slots
    pure (a, as)

end Fields

namespace Codec

variable {ts : List Type} {α : Type}

/-- Read members into fields; a member of another name is passed over. -/
def readMembers (fields : Fields Codec ts) (room : Nat) :
    Slots ts → List (Option String × Document) → Except Reject (Slots ts)
  | slots, [] => .ok slots
  | _, (none, _) :: _ => .error .malformed
  | slots, (some key, d) :: rest =>
    match fields.meet key (.duplicateField key) (fun c => c.read room d) slots with
    | some r => do readMembers fields room (← r) rest
    | none => if d.complete then readMembers fields room slots rest else .error .malformed

/-- Read items into fields by position. -/
def readPositions (room : Nat) (expected : String) : {ts : List Type} → Nat → Fields Codec ts →
    List Document → Except Reject (Values ts × List Document)
  | _, _, .nil, items => .ok ((), items)
  | _, n, .cons f rest, [] => do
    let a ← f.beyond (.tooShort n expected)
    let r ← readPositions room expected (n + 1) rest []
    pure ((a, r.1), r.2)
  | _, n, .cons f rest, d :: items => do
    let a ← f.kind.read room d
    let r ← readPositions room expected (n + 1) rest items
    pure ((a, r.1), r.2)

/-- The members of a record, those left out apart. -/
def writeMembers : {ts : List Type} → Fields Codec ts → Values ts → List (String × Json)
  | _, .nil, _ => []
  | _, .cons f rest, (a, as) =>
    if f.omits a then writeMembers rest as
    else (f.name, f.kind.write a) :: writeMembers rest as

/-- What a list that is too short for a record is told to be. -/
def positionsExpected (name : String) (size : Nat) : String :=
  "struct " ++ name ++ " with " ++ toString size ++ (if size = 1 then " element" else " elements")

/-- A record with the given name and fields. -/
def record (name : String) (fields : Fields Codec ts) (build : Values ts → α)
    (split : α → Values ts) : Codec α where
  write a := .obj (writeMembers fields (split a))
  read room d := match d with
    | .obj members ending => do
      let slots ← readMembers fields (← enter room) (Fields.unmet ts) members
      if ending == .closed then (fields.settle slots).map build else .error .malformed
    | .arr items closed => do
      let r ← readPositions (← enter room) (positionsExpected name fields.size) 0 fields
        (if closed then items else items ++ [.broken])
      closing r.2.isEmpty (build r.1)
    | d => .error (mismatch ("struct " ++ name) d)

/-- Read members into fields, and keep those of another name. -/
def readOpenMembers (fields : Fields Codec ts) (room : Nat) :
    Slots ts → Dict Json → List (Option String × Document) → Except Reject (Slots ts × Dict Json)
  | slots, extra, [] => .ok (slots, extra)
  | _, _, (none, _) :: _ => .error .malformed
  | slots, extra, (some key, d) :: rest =>
    match fields.meet key (.duplicateField key) (fun c => c.read room d) slots with
    | some r => do readOpenMembers fields room (← r) extra rest
    | none => do
      let v ← readAny room d
      readOpenMembers fields room slots (extra.insert key v) rest

/-- A record with the given name and fields that keeps the members it has no field for. -/
def openRecord (name : String) (fields : Fields Codec ts) (build : Values ts → Dict Json → α)
    (split : α → Values ts × Dict Json) : Codec α where
  write a := .obj (writeMembers fields (split a).1 ++ (split a).2.entries)
  read room d := match d with
    | .obj members ending => do
      let (slots, extra) ←
        readOpenMembers fields (← enter room) (Fields.unmet ts) .empty members
      if ending == .closed then (fields.settle slots).map (build · extra) else .error .malformed
    | d => .error (mismatch ("struct " ++ name) d)

end Codec
end OfflineChat
