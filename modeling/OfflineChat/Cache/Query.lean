import OfflineChat.Cache.Table

/-! # Reading the cache

The queries.  Chats are listed with the pinned ones first and then by the time
of their last change; messages by their time.  Rows that these orders do not
tell apart keep a fixed order: chats of the list go by id, everything else by
first insertion.
-/
namespace OfflineChat
namespace Cache

/-- The rows of a chat's messages by time, those of one time by first insertion. -/
def messageRows (c : Cache) (chatId : String) : List MessageRow :=
  (c.messages.filter (·.chatId == chatId)).mergeSort fun a b => decide (a.timestamp ≤ b.timestamp)

/-- The messages of a chat by time. -/
def messagesOf (c : Cache) (chatId : String) : List CachedMessage :=
  (c.messageRows chatId).map (·.toMessage)

/-- The messages of a chat that did not reach the server. -/
def failedMessagesOf (c : Cache) (chatId : String) : List CachedMessage :=
  ((c.messageRows chatId).filter (·.isFailed)).map (·.toMessage)

/-- The newest message of a chat that has not failed: what the next one hangs under. -/
def latestMessageOf (c : Cache) (chatId : String) : Option CachedMessage :=
  ((c.messageRows chatId).filter (!·.isFailed)).getLast?.map (·.toMessage)

/-- A cached chat. -/
def chat? (c : Cache) (chatId : String) : Option CachedChat :=
  (c.chats.find? (·.id == chatId)).map (·.toChat)

/-- The latest of some times. -/
def latestTime : List Int → Option Int
  | [] => none
  | t :: rest => some (rest.foldl max t)

/-- The entry of a chat in the list. -/
def entryOf (c : Cache) (r : ChatRow) : ChatListEntry :=
  let rows := c.messages.filter (·.chatId == r.id)
  ⟨r.toChat, rows.length, latestTime (rows.map (·.timestamp))⟩

/-- Pinned rows first, then the later changed, then the lesser id. -/
def listedBefore (a b : ChatRow) : Bool :=
  if a.pinned ≠ b.pinned then decide (b.pinned < a.pinned)
  else if a.updatedAt ≠ b.updatedAt then decide (b.updatedAt < a.updatedAt)
  else decide (a.id ≤ b.id)

/-- The list of chats that are not archived. -/
def activeChats (c : Cache) : List ChatListEntry :=
  ((c.chats.filter (·.archived == 0)).mergeSort listedBefore).map c.entryOf

/-- The chats whose title holds a text, whatever the case of Latin letters, the later changed
first. -/
def searchChats (c : Cache) (query : String) : List CachedChat :=
  let found := c.chats.filter fun r =>
    Text.contains (Text.asciiLower r.title) (Text.asciiLower query)
  (found.mergeSort fun a b => decide (b.updatedAt ≤ a.updatedAt)).map (·.toChat)

/-- The attachments of a message by first insertion. -/
def attachmentsOf (c : Cache) (chatId messageId : String) : List CachedAttachment :=
  c.attachments.filter (·.owner == (chatId, messageId))

/-- How many chats are cached. -/
def chatCount (c : Cache) : Nat := c.chats.length

/-- How many rows of each kind are cached. -/
def stats (c : Cache) : CacheStats :=
  ⟨c.chats.length, c.messages.length, c.attachments.length,
    (c.messages.filter (·.isFailed)).length⟩

end Cache
end OfflineChat
