import OfflineChat.Cache.Table

/-! # The saved cache

A cache as a text that outlives the program: the number of its layout, and the
rows of each table in their order.  `Cache.ofSaved?` takes back what
`Cache.saved` gave.
-/
namespace OfflineChat

/-- How rows of the table of chats are written and read. -/
def ChatRow.codec : Codec ChatRow :=
  .record "ChatRow"
    (.cons (.required "id" .string) <|
     .cons (.required "title" .string) <|
     .cons (.required "created_at" .int64) <|
     .cons (.required "updated_at" .int64) <|
     .cons (.required "archived" .int64) <|
     .cons (.required "pinned" .int64) <|
     .cons (.required "models" .string) <|
     .cons (.nullable "share_id" .string) <|
     .cons (.nullable "folder_id" .string) .nil)
    (fun (id, title, createdAt, updatedAt, archived, pinned, models, shareId, folderId, _) =>
      ⟨id, title, createdAt, updatedAt, archived, pinned, models, shareId, folderId⟩)
    (fun r => (r.id, r.title, r.createdAt, r.updatedAt, r.archived, r.pinned, r.models, r.shareId,
      r.folderId, ()))

/-- How rows of the table of messages are written and read. -/
def MessageRow.codec : Codec MessageRow :=
  .record "MessageRow"
    (.cons (.required "chat_id" .string) <|
     .cons (.required "id" .string) <|
     .cons (.nullable "parent_id" .string) <|
     .cons (.required "role" .string) <|
     .cons (.required "content" .string) <|
     .cons (.nullable "model" .string) <|
     .cons (.required "timestamp" .int64) <|
     .cons (.required "status" .string) .nil)
    (fun (chatId, id, parentId, role, content, model, timestamp, status, _) =>
      ⟨chatId, id, parentId, role, content, model, timestamp, status⟩)
    (fun r => (r.chatId, r.id, r.parentId, r.role, r.content, r.model, r.timestamp, r.status, ()))

namespace Cache

/-- How caches are written and read. -/
def codec : Codec Cache :=
  .record "Cache"
    (.cons (.required "layout" .int64) <|
     .cons (.required "chats" (.list ChatRow.codec)) <|
     .cons (.required "messages" (.list MessageRow.codec)) <|
     .cons (.required "attachments" (.list CachedAttachment.codec)) .nil)
    (fun (layout, chats, messages, attachments, _) => ⟨chats, messages, attachments, layout⟩)
    (fun c => (c.layout, c.chats, c.messages, c.attachments, ()))

/-- A cache as a text. -/
def saved (c : Cache) : String := codec.encode c

/-- The cache of a text, if it is one. -/
def ofSaved? (text : String) : Option Cache := (codec.decode text).toOption

end Cache
end OfflineChat
