import OfflineChat.Json.Record
import OfflineChat.Yaml.Node

/-! # Reading values from YAML

A `YamlKind` says how the values of a type are read from a node.  Records are
described by the same lists of fields as in JSON.  A refusal names the way from
the root to the node that is refused.
-/
namespace OfflineChat

/-- Why a node does not read as a value. -/
inductive YamlRefusal where
  | wrongType (found expected : String)
  | wrongValue (found expected : String)
  | duplicateField (name : String)
deriving DecidableEq, Repr

namespace YamlRefusal

/-- The wording of a refusal. -/
def message : YamlRefusal → String
  | .wrongType found expected => "invalid type: " ++ found ++ ", expected " ++ expected
  | .wrongValue found expected => "invalid value: " ++ found ++ ", expected " ++ expected
  | .duplicateField name => "duplicate field `" ++ name ++ "`"

end YamlRefusal

/-- Why a text does not read as a value. -/
inductive YamlError where
  | fault (f : Yaml.Fault)
  /-- Another document follows the first. -/
  | severalDocuments
  /-- The node at the end of a way from the root is refused. -/
  | refused (way : List String) (cause : YamlRefusal)
deriving DecidableEq, Repr

namespace YamlError

/-- The wording of an error. -/
def message : YamlError → String
  | .fault f => f.message
  | .severalDocuments =>
    "deserializing from YAML containing more than one document is not supported"
  | .refused way cause =>
    (if way.isEmpty then "" else String.intercalate "." way ++ ": ") ++ cause.message

end YamlError

/-- How the values of a type are read from a node: the document it stands in, the way to it from
the root, and the node. -/
structure YamlKind (α : Type) where
  read : Yaml.Tree → List String → Yaml.Node → Except YamlError α

namespace YamlKind

open Yaml

variable {α : Type}

/-- The error where the events of a document end. -/
def cut (d : Tree) : YamlError := .fault (d.fault.getD (.malformed "" .start none))

/-- The node an alias stands for. -/
def follow (d : Tree) : Node → Node
  | .alias n => (d.anchors.lookup n).getD .broken
  | node => node

/-- What a tag says of the scalar behind it. -/
def taggedMeaning (tag : Option String) (s : Scalar) : Except YamlRefusal Meaning :=
  let refuse (expected : String) : Except YamlRefusal Meaning :=
    .error (.wrongValue (Meaning.text s.text).describe expected)
  let plain := Scalar.plainMeaning s.text
  match tag with
  | none => .ok (if s.style = .plain then plain else .text s.text)
  | some "tag:yaml.org,2002:bool" => match plain with
    | .bool b => .ok (.bool b)
    | _ => refuse "a boolean"
  | some "tag:yaml.org,2002:int" => match plain with
    | .int n => .ok (.int n)
    | _ => refuse "an integer"
  | some "tag:yaml.org,2002:float" => match Scalar.float? s.text with
    | some x => .ok (.float x)
    | none => refuse "a float"
  | some "tag:yaml.org,2002:null" =>
    if plain = .null ∧ s.text ≠ "" then .ok .null else refuse "null"
  | some t =>
    .ok (if t.toList.head? = some '!' ∧ s.style = .plain then plain else .text s.text)

/-- The error of a node where something else was expected. -/
def mismatch (d : Tree) (way : List String) (expected : String) : Node → YamlError
  | .scalar tag s => .refused way (match taggedMeaning tag s with
    | .ok m => .wrongType m.describe expected
    | .error cause => cause)
  | .sequence .. => .refused way (.wrongType "sequence" expected)
  | .mapping .. => .refused way (.wrongType "map" expected)
  | _ => cut d

/-- A text: any scalar is one. -/
def string : YamlKind String where
  read d way node := match follow d node with
    | .scalar _ s => .ok s.text
    | node => .error (mismatch d way "a string" node)

/-- A natural of sixty-four bits. -/
def nat64 : YamlKind Nat where
  read d way node := match follow d node with
    | .scalar tag s =>
      let refused := .error (mismatch d way "u64" (.scalar tag s))
      if s.style = .plain ∨ (s.style = .literal ∧ tag = some "tag:yaml.org,2002:int") then
        match Scalar.int? s.text.toList with
        | some n =>
          if 0 ≤ n ∧ n ≤ 0xFFFFFFFFFFFFFFFF ∧ s.text.toList.head? ≠ some '-' then .ok n.toNat
          else refused
        | none => refused
      else refused
    | node => .error (mismatch d way "u64" node)

/-- A value, or nothing. -/
def option (k : YamlKind α) : YamlKind (Option α) where
  read d way node :=
    let node := follow d node
    let some' := (k.read d way node).map some
    match node with
    | .scalar tag s =>
      if s.style ≠ .plain then some'
      else if tag = some "tag:yaml.org,2002:null" then
        match taggedMeaning tag s with
        | .ok _ => .ok none
        | .error cause => .error (.refused way cause)
      else if tag.isNone ∧ s.isNull then .ok none
      else some'
    | .absent => .ok none
    | _ => some'

/-- The key of a pair, and how it shows on the way to its value. -/
def readKey (d : Tree) (way : List String) (key : Node) : Except YamlError (String × String) :=
  match key, follow d key with
  | .scalar .., .scalar _ s => .ok (s.text, s.text)
  | _, .scalar _ s => .ok (s.text, "?")
  | _, node => .error (mismatch d way "field identifier" node)

variable {ts : List Type}

/-- Read pairs into fields; a pair of another key is passed over. -/
def readPairs (fields : Fields YamlKind ts) (d : Tree) (way : List String) :
    Slots ts → List (Node × Node) → Except YamlError (Slots ts)
  | slots, [] => .ok slots
  | slots, (key, value) :: rest => do
    let (name, shown) ← readKey d way key
    match fields.meet name (.refused way (.duplicateField name))
        (fun k => k.read d (way ++ [shown]) value) slots with
    | some r => readPairs fields d way (← r) rest
    | none => if value.complete then readPairs fields d way slots rest else .error (cut d)

/-- A record with the given name and fields, each of which may be left out. -/
def record (name : String) (fields : Fields YamlKind ts) (build : Values ts → α) :
    YamlKind α where
  read d way node :=
    let settle (slots : Slots ts) : Except YamlError α :=
      match fields.settle slots with
      | .ok vs => .ok (build vs)
      | .error cause => .error (.refused way (.wrongType cause.message name))
    match follow d node with
    | .mapping pairs closed => do
      let slots ← readPairs fields d way (Fields.unmet ts) pairs
      if closed then settle slots else .error (cut d)
    | .absent => settle (Fields.unmet ts)
    | .scalar tag s =>
      if s = ⟨"", .plain⟩ then settle (Fields.unmet ts)
      else .error (mismatch d way ("struct " ++ name) (.scalar tag s))
    | node => .error (mismatch d way ("struct " ++ name) node)

/-- Read a whole text. -/
def decode (k : YamlKind α) (text : String) : Except YamlError α := do
  let d := Tree.ofText text
  let a ← k.read d [] d.root
  match d.fault with
  | some f => .error (.fault f)
  | none => if d.more then .error .severalDocuments else pure a

end YamlKind
end OfflineChat
