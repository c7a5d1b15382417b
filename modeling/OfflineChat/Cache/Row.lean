import OfflineChat.Chat
import OfflineChat.Media

/-! # What the cache answers

The records a reader of the cache sees: chats, messages with the state of their
delivery, attachments, the entries of the chat list, and row counts; each with
its codec, and how it is made from what the server answers.
-/
namespace OfflineChat

/-- How far the delivery of a message has come. -/
inductive MessageStatus where
  /-- The server has it. -/
  | sent
  /-- It was written here and is on its way. -/
  | pending
  /-- It did not reach the server. -/
  | failed
deriving DecidableEq, Repr, Inhabited

namespace MessageStatus

/-- The written name of a status. -/
def name : MessageStatus → String
  | .sent => "sent"
  | .pending => "pending"
  | .failed => "failed"

/-- The status of a stored text; an unknown one counts as sent. -/
def ofText (s : String) : MessageStatus :=
  if s = "pending" then .pending else if s = "failed" then .failed else .sent

@[simp] theorem ofText_name (s : MessageStatus) : ofText s.name = s := by
  cases s <;> decide

/-- A status is written as its name. -/
def codec : Codec MessageStatus :=
  .variant ([sent, pending, failed].map fun s => (s.name, s)) name

end MessageStatus

/-- A cached chat. -/
structure CachedChat where
  id : String
  title : String
  /-- Seconds since the epoch. -/
  createdAt : Int
  /-- Seconds since the epoch. -/
  updatedAt : Int
  archived : Bool
  pinned : Bool
  models : List String
  shareId : Option String
  folderId : Option String
deriving DecidableEq, Repr

namespace CachedChat

/-- A chat that is on this device only. -/
def onDevice (id title : String) (now : Int) : CachedChat :=
  ⟨id, title, now, now, false, false, [], none, none⟩

/-- The chat of a row of the server's list. -/
def ofSummary (s : ChatSummary) : CachedChat :=
  ⟨s.id, s.title, s.createdAt, s.updatedAt, s.archived, s.pinned, [], none, none⟩

/-- The chat of a full answer of the server. -/
def ofChat (c : Chat) : CachedChat :=
  ⟨c.id, c.title, c.createdAt, c.updatedAt, c.archived, c.pinned, c.body.models, c.shareId,
    c.folderId⟩

/-- The fields of a cached chat. -/
def fields : Fields Codec
    [String, String, Int, Int, Bool, Bool, List String, Option String, Option String] :=
  .cons (.required "id" .string) <|
  .cons (.required "title" .string) <|
  .cons (.required "created_at" .int64) <|
  .cons (.required "updated_at" .int64) <|
  .cons (.required "archived" .bool) <|
  .cons (.required "pinned" .bool) <|
  .cons (.required "models" (.list .string)) <|
  .cons (.nullableMember "share_id" .string) <|
  .cons (.nullableMember "folder_id" .string) .nil

/-- How cached chats are written and read. -/
def codec : Codec CachedChat :=
  .record "CachedChat" fields
    (fun (id, title, createdAt, updatedAt, archived, pinned, models, shareId, folderId, _) =>
      ⟨id, title, createdAt, updatedAt, archived, pinned, models, shareId, folderId⟩)
    (fun c => (c.id, c.title, c.createdAt, c.updatedAt, c.archived, c.pinned, c.models, c.shareId,
      c.folderId, ()))

end CachedChat

/-- A cached message. -/
structure CachedMessage where
  id : String
  chatId : String
  parentId : Option String
  role : Role
  content : String
  model : Option String
  /-- Seconds since the epoch. -/
  timestamp : Int
  status : MessageStatus
deriving DecidableEq, Repr

namespace CachedMessage

/-- A message of the server in the cache. -/
def ofMessage (chatId : String) (m : Message) (status : MessageStatus) : CachedMessage :=
  ⟨m.id, chatId, m.parentId, m.role, m.content, m.model, m.timestamp, status⟩

/-- The message without its children and files. -/
def toMessage (m : CachedMessage) : Message :=
  { Message.plain m.id m.parentId m.role m.content m.timestamp with model := m.model }

/-- The fields of a cached message. -/
def fields : Fields Codec
    [String, String, Option String, Role, String, Option String, Int, MessageStatus] :=
  .cons (.required "id" .string) <|
  .cons (.required "chat_id" .string) <|
  .cons (.nullableMember "parent_id" .string) <|
  .cons (.required "role" Role.codec) <|
  .cons (.required "content" .string) <|
  .cons (.nullableMember "model" .string) <|
  .cons (.required "timestamp" .int64) <|
  .cons (.required "status" MessageStatus.codec) .nil

/-- How cached messages are written and read. -/
def codec : Codec CachedMessage :=
  .record "CachedMessage" fields
    (fun (id, chatId, parentId, role, content, model, timestamp, status, _) =>
      ⟨id, chatId, parentId, role, content, model, timestamp, status⟩)
    (fun m => (m.id, m.chatId, m.parentId, m.role, m.content, m.model, m.timestamp, m.status, ()))

end CachedMessage

/-- A cached attachment.  It belongs to one message of one chat. -/
structure CachedAttachment where
  id : String
  chatId : String
  messageId : String
  filename : String
  contentType : String
  size : Int
  localPath : Option String
  remoteUrl : Option String
deriving DecidableEq, Repr

namespace CachedAttachment

/-- The id of a file reference: its own, or one made of the message and the place among its
references. -/
def idOf (messageId : String) (index : Nat) (f : FileRef) : String :=
  f.id.getD (messageId ++ ":" ++ toString index)

/-- The attachment of a file reference of a message. -/
def ofFileRef (chatId messageId : String) (index : Nat) (f : FileRef) : CachedAttachment :=
  let filename := f.name.getD "file"
  { id := idOf messageId index f
    chatId := chatId
    messageId := messageId
    filename := filename
    contentType := f.kind.getD (Media.ofPath ⟨filename⟩)
    size := f.size.getD 0
    localPath := none
    remoteUrl := f.url }

/-- The fields of a cached attachment. -/
def fields : Fields Codec
    [String, String, String, String, String, Int, Option String, Option String] :=
  .cons (.required "id" .string) <|
  .cons (.required "chat_id" .string) <|
  .cons (.required "message_id" .string) <|
  .cons (.required "filename" .string) <|
  .cons (.required "content_type" .string) <|
  .cons (.required "size" .int64) <|
  .cons (.nullableMember "local_path" .string) <|
  .cons (.nullableMember "remote_url" .string) .nil

/-- How cached attachments are written and read. -/
def codec : Codec CachedAttachment :=
  .record "CachedAttachment" fields
    (fun (id, chatId, messageId, filename, contentType, size, localPath, remoteUrl, _) =>
      ⟨id, chatId, messageId, filename, contentType, size, localPath, remoteUrl⟩)
    (fun a => (a.id, a.chatId, a.messageId, a.filename, a.contentType, a.size, a.localPath,
      a.remoteUrl, ()))

end CachedAttachment

/-- An entry of the list of cached chats. -/
structure ChatListEntry where
  chat : CachedChat
  messageCount : Nat
  /-- The time of the newest cached message. -/
  lastMessageTime : Option Int
deriving DecidableEq, Repr

/-- How entries are written and read. -/
def ChatListEntry.codec : Codec ChatListEntry :=
  .record "ChatListEntry"
    (.cons (.required "chat" CachedChat.codec) <|
     .cons (.required "message_count" .count) <|
     .cons (.nullableMember "last_message_time" .int64) .nil)
    (fun (chat, messageCount, lastMessageTime, _) => ⟨chat, messageCount, lastMessageTime⟩)
    (fun e => (e.chat, e.messageCount, e.lastMessageTime, ()))

/-- How many rows the cache holds. -/
structure CacheStats where
  chats : Nat
  messages : Nat
  attachments : Nat
  failedMessages : Nat
deriving DecidableEq, Repr

/-- How row counts are written and read. -/
def CacheStats.codec : Codec CacheStats :=
  .record "CacheStats"
    (.cons (.required "chats" .count) <|
     .cons (.required "messages" .count) <|
     .cons (.required "attachments" .count) <|
     .cons (.required "failed_messages" .count) .nil)
    (fun (chats, messages, attachments, failedMessages, _) =>
      ⟨chats, messages, attachments, failedMessages⟩)
    (fun s => (s.chats, s.messages, s.attachments, s.failedMessages, ()))

end OfflineChat
