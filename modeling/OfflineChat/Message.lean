import OfflineChat.Json.Record

/-! # Messages

The messages of a chat as the server keeps them: who wrote one, what it hangs
under, and the files it refers to.  Each type comes with its codec; a message
without a timestamp is read as written now, so its codec takes the time.
-/
namespace OfflineChat

/-- The author of a message. -/
inductive Role where
  | user
  | assistant
  | system
deriving DecidableEq, Repr, Inhabited

namespace Role

/-- The written name of a role. -/
def name : Role → String
  | .user => "user"
  | .assistant => "assistant"
  | .system => "system"

/-- Every role by its name. -/
def names : List (String × Role) := [user, assistant, system].map fun r => (r.name, r)

/-- The role of a name. -/
def ofName? (s : String) : Option Role := names.lookup s

@[simp] theorem ofName?_name (r : Role) : ofName? r.name = some r := by
  cases r <;> decide

/-- The refusal of a text that names no role. -/
def unknown (s : String) : String := "unknown role: " ++ s

/-- A role is written as its name. -/
def codec : Codec Role := .variant names name

end Role

/-- A file that a message refers to, as far as the cache understands it; the members of the
reference that it does not are kept in `extra`. -/
structure FileRef where
  id : Option String
  name : Option String
  kind : Option String
  size : Option Int
  url : Option String
  extra : Dict Json

namespace FileRef

/-- The fields of a file reference. -/
def fields : Fields Codec
    [Option String, Option String, Option String, Option Int, Option String] :=
  .cons (.omitted "id" (.option .string) none Option.isNone) <|
  .cons (.omitted "name" (.option .string) none Option.isNone) <|
  .cons (.omitted "type" (.option .string) none Option.isNone) <|
  .cons (.omitted "size" (.option .int64) none Option.isNone) <|
  .cons (.omitted "url" (.option .string) none Option.isNone) .nil

/-- How file references are written and read. -/
def codec : Codec FileRef :=
  .openRecord "FileRef" fields
    (fun (id, name, kind, size, url, _) extra => ⟨id, name, kind, size, url, extra⟩)
    (fun f => ((f.id, f.name, f.kind, f.size, f.url, ()), f.extra))

end FileRef

/-- A message in the tree of a chat. -/
structure Message where
  id : String
  /-- The message it hangs under. -/
  parentId : Option String
  childrenIds : List String
  role : Role
  content : String
  /-- The model that wrote it. -/
  model : Option String
  /-- Seconds since the epoch. -/
  timestamp : Int
  files : List FileRef

namespace Message

/-- A message without children, model and files. -/
def plain (id : String) (parentId : Option String) (role : Role) (content : String)
    (timestamp : Int) : Message :=
  ⟨id, parentId, [], role, content, none, timestamp, []⟩

/-- The fields of a message; one without a timestamp was written at `now`. -/
def fields (now : Int) : Fields Codec
    [String, Option String, List String, Role, String, Option String, Int, List FileRef] :=
  .cons (.required "id" .string) <|
  .cons (.defaulted "parentId" (.option .string) none) <|
  .cons (.defaulted "childrenIds" (.list .string) []) <|
  .cons (.required "role" Role.codec) <|
  .cons (.defaulted "content" .string "") <|
  .cons (.omitted "model" (.option .string) none Option.isNone) <|
  .cons (.defaulted "timestamp" .int64 now) <|
  .cons (.omitted "files" (.list FileRef.codec) [] List.isEmpty) .nil

/-- How messages are written, and read at the time `now`. -/
def codec (now : Int) : Codec Message :=
  .record "Message" (fields now)
    (fun (id, parentId, childrenIds, role, content, model, timestamp, files, _) =>
      ⟨id, parentId, childrenIds, role, content, model, timestamp, files⟩)
    (fun m => (m.id, m.parentId, m.childrenIds, m.role, m.content, m.model, m.timestamp, m.files,
      ()))

end Message
end OfflineChat
