import OfflineChat.Cache.Query

/-! # Writing the cache

The writes, each with the events it announces, which tell every live view whether
it has to read again.

What stands here is what comes of a write on a database that refuses nothing it is
asked for; a write can then fail only because it breaks a rule of the tables.  The
same writes step by step, with what is left of them when the database refuses a
step, are in `OfflineChat.Cache.Attempt`.
-/
namespace OfflineChat

/-- What a write announces. -/
inductive CacheEvent where
  /-- The list of chats, or a row of it, changed. -/
  | chats
  /-- The messages of one chat changed. -/
  | messages (chatId : String)
  /-- Everything was removed. -/
  | cleared
deriving DecidableEq, Repr

namespace CacheEvent

/-- Whether a view of the messages of a chat has to read again. -/
def affectsMessagesOf (chatId : String) : CacheEvent → Bool
  | .messages id => id == chatId
  | .cleared => true
  | .chats => false

end CacheEvent

/-- What a write leaves behind. -/
structure Written (α : Type) where
  value : α
  cache : Cache
  events : List CacheEvent

/-- A flag of a chat that can be flipped. -/
inductive ChatFlag where
  | pinned
  | archived
deriving DecidableEq, Repr

namespace ChatRow

/-- The flag of a row. -/
def get (r : ChatRow) : ChatFlag → Int
  | .pinned => r.pinned
  | .archived => r.archived

/-- A row with one flag flipped. -/
def flip (r : ChatRow) : ChatFlag → ChatRow
  | .pinned => { r with pinned := flag (r.pinned == 0) }
  | .archived => { r with archived := flag (r.archived == 0) }

end ChatRow

namespace Cache

/-- Put the rows of the server's list.  What the list does not say of a chat is kept. -/
def upsertSummaries (c : Cache) (summaries : List ChatSummary) : Written Unit :=
  ⟨(), summaries.foldl putSummary c, [.chats]⟩

/-- Put a chat, or change it wholly. -/
def upsertChat (c : Cache) (chat : CachedChat) : Written Unit :=
  ⟨(), c.putChat (.ofChat chat), [.chats]⟩

/-- The attachments of a message's file references, in their order. -/
def attachmentsFor (chatId : String) (m : Message) : List CachedAttachment :=
  m.files.mapIdx fun i f => .ofFileRef chatId m.id i f

/-- Put a message of the server as sent, and its attachments. -/
def putServerMessage (chatId : String) (c : Cache) (m : Message) : Cache :=
  (attachmentsFor chatId m).foldl putAttachment
    (c.putMessage (.ofMessage (.ofMessage chatId m .sent)))

/-- Put what the server answered about a chat: its row, its thread and the attachments.  Messages
that the thread does not hold stay as they are. -/
def applySnapshot (c : Cache) (chat : Chat) (thread : List Message) : Written Unit :=
  ⟨(), thread.foldl (putServerMessage chat.id) (c.putChat (.ofChat (.ofChat chat))),
    [.chats, .messages chat.id]⟩

/-- Put a message of a cached chat, or change it wholly. -/
def upsertMessage (c : Cache) (m : CachedMessage) : Except Failure (Written Unit) :=
  if c.hasChat m.chatId then
    .ok ⟨(), c.putMessage (.ofMessage m), [.chats, .messages m.chatId]⟩
  else .error (.storage "Failed to upsert message: FOREIGN KEY constraint failed")

/-- Change the status of a message; whether there is such a message. -/
def setMessageStatus (c : Cache) (chatId messageId : String) (status : MessageStatus) :
    Written Bool :=
  if c.messages.any (·.key == (chatId, messageId)) then
    ⟨true,
      { c with
        messages := c.messages.map fun r =>
          if r.key = (chatId, messageId) then { r with status := status.name } else r },
      [.messages chatId]⟩
  else ⟨false, c, []⟩

/-- Remove a chat, its messages and their attachments; whether there was such a chat. -/
def deleteChat (c : Cache) (chatId : String) : Written Bool :=
  ⟨c.hasChat chatId, c.dropChat chatId, [.chats, .messages chatId]⟩

/-- Flip a flag of a chat; its new value, read back, if there is such a chat.  The flip is made
before it is read back: what is left of it when that is refused says `CacheWrite.attempt`. -/
def toggle (c : Cache) (f : ChatFlag) (chatId : String) : Written (Option Bool) :=
  match c.chats.find? (·.id == chatId) with
  | some r =>
    ⟨some (decide ((r.flip f).get f ≠ 0)),
      { c with chats := c.chats.map fun r => if r.id = chatId then r.flip f else r }, [.chats]⟩
  | none => ⟨none, c, []⟩

/-- Remove every row. -/
def clearAll (c : Cache) : Written Unit :=
  ⟨(), ⟨[], [], [], c.layout⟩, [.cleared]⟩

end Cache

/-- A write, as data. -/
inductive CacheWrite where
  | upsertSummaries (summaries : List ChatSummary)
  | upsertChat (chat : CachedChat)
  | applySnapshot (chat : Chat) (thread : List Message)
  | upsertMessage (m : CachedMessage)
  | setMessageStatus (chatId messageId : String) (status : MessageStatus)
  | deleteChat (chatId : String)
  | toggle (f : ChatFlag) (chatId : String)
  | clearAll

namespace CacheWrite

/-- Carry out a write of which nothing is refused: the changed cache and what is announced. -/
def run (c : Cache) : CacheWrite → Except Failure (Cache × List CacheEvent)
  | .upsertSummaries ss => let w := c.upsertSummaries ss; .ok (w.cache, w.events)
  | .upsertChat chat => let w := c.upsertChat chat; .ok (w.cache, w.events)
  | .applySnapshot chat thread => let w := c.applySnapshot chat thread; .ok (w.cache, w.events)
  | .upsertMessage m => (c.upsertMessage m).map fun w => (w.cache, w.events)
  | .setMessageStatus chatId id status =>
    let w := c.setMessageStatus chatId id status; .ok (w.cache, w.events)
  | .deleteChat chatId => let w := c.deleteChat chatId; .ok (w.cache, w.events)
  | .toggle f chatId => let w := c.toggle f chatId; .ok (w.cache, w.events)
  | .clearAll => let w := c.clearAll; .ok (w.cache, w.events)

end CacheWrite
end OfflineChat
