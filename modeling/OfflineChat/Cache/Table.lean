import OfflineChat.Cache.Row
import OfflineChat.Failure

/-! # The tables of the cache

Three tables of rows in the order of their first insertion.  A chat is keyed by
its id, a message by its chat and id, an attachment by its message and id.  A
row keeps roles, statuses and model lists as texts and flags as integers, so
that it can hold what no reader knows.  `upsert` keeps a row in its place.
-/
namespace OfflineChat

/-- Put a row under its key: in place of the row there, as `merge` says, or else at the end. -/
def upsert {α κ : Type} [DecidableEq κ] (key : α → κ) (merge : α → α → α) (new : α) :
    List α → List α
  | [] => [new]
  | old :: rest =>
    if key old = key new then merge old new :: rest else old :: upsert key merge new rest

/-- A row of the table of chats. -/
structure ChatRow where
  id : String
  title : String
  createdAt : Int
  updatedAt : Int
  archived : Int
  pinned : Int
  /-- The names of the models, as a JSON text. -/
  models : String
  shareId : Option String
  folderId : Option String
deriving DecidableEq, Repr

/-- A row of the table of messages. -/
structure MessageRow where
  chatId : String
  id : String
  parentId : Option String
  role : String
  content : String
  model : Option String
  timestamp : Int
  status : String
deriving DecidableEq, Repr

/-- A row of the table of attachments. -/
abbrev AttachmentRow := CachedAttachment

/-- A flag as an integer. -/
def flag (b : Bool) : Int := if b then 1 else 0

@[simp] theorem flag_ne_zero (b : Bool) : decide (flag b ≠ 0) = b := by
  cases b <;> decide

namespace ChatRow

/-- The row of a chat. -/
def ofChat (c : CachedChat) : ChatRow :=
  ⟨c.id, c.title, c.createdAt, c.updatedAt, flag c.archived, flag c.pinned,
    (Codec.list .string).encode c.models, c.shareId, c.folderId⟩

/-- The models a row names; a text that is no list of names names none. -/
def modelNames (r : ChatRow) : List String :=
  match (Codec.list .string).decode r.models with
  | .ok names => names
  | .error _ => []

/-- The chat of a row. -/
def toChat (r : ChatRow) : CachedChat :=
  ⟨r.id, r.title, r.createdAt, r.updatedAt, decide (r.archived ≠ 0), decide (r.pinned ≠ 0),
    r.modelNames, r.shareId, r.folderId⟩

/-- The row of a row of the server's list, which names no models. -/
def ofSummary (s : ChatSummary) : ChatRow :=
  ⟨s.id, s.title, s.createdAt, s.updatedAt, flag s.archived, flag s.pinned, "[]", none, none⟩

/-- A row with the columns of the server's list changed. -/
def withSummary (old new : ChatRow) : ChatRow :=
  { old with
    title := new.title, createdAt := new.createdAt, updatedAt := new.updatedAt,
    archived := new.archived, pinned := new.pinned }

end ChatRow

namespace MessageRow

/-- The key of a message. -/
def key (r : MessageRow) : String × String := (r.chatId, r.id)

/-- The row of a message. -/
def ofMessage (m : CachedMessage) : MessageRow :=
  ⟨m.chatId, m.id, m.parentId, m.role.name, m.content, m.model, m.timestamp, m.status.name⟩

/-- The message of a row; an unknown role is the user's. -/
def toMessage (r : MessageRow) : CachedMessage :=
  ⟨r.id, r.chatId, r.parentId, (Role.ofName? r.role).getD .user, r.content, r.model, r.timestamp,
    MessageStatus.ofText r.status⟩

/-- Whether the row is stored as failed. -/
def isFailed (r : MessageRow) : Bool := r.status == MessageStatus.failed.name

@[simp] theorem toMessage_ofMessage (m : CachedMessage) : (ofMessage m).toMessage = m := by
  cases m; simp [ofMessage, toMessage]

end MessageRow

namespace CachedAttachment

/-- The key of an attachment. -/
def key (a : AttachmentRow) : String × String × String := (a.chatId, a.messageId, a.id)

/-- The key of the message an attachment belongs to. -/
def owner (a : AttachmentRow) : String × String := (a.chatId, a.messageId)

/-- A row with everything changed but a path on this device that is known already. -/
def keepingPath (old new : AttachmentRow) : AttachmentRow :=
  { new with localPath := new.localPath.or old.localPath }

end CachedAttachment

/-- The cache: its rows, and the number of the layout they are stored in. -/
structure Cache where
  chats : List ChatRow
  messages : List MessageRow
  attachments : List AttachmentRow
  layout : Int
deriving DecidableEq, Repr

namespace Cache

/-- The number of the present layout. -/
def currentLayout : Int := 2

/-- A cache with no row. -/
def fresh : Cache := ⟨[], [], [], currentLayout⟩

/-- Whether a chat has a row. -/
def hasChat (c : Cache) (chatId : String) : Bool := c.chats.any (·.id == chatId)

/-- Put a chat row. -/
def putChat (c : Cache) (row : ChatRow) : Cache :=
  { c with chats := upsert ChatRow.id (fun _ new => new) row c.chats }

/-- Put a row of the server's list; what the list does not say is kept. -/
def putSummary (c : Cache) (s : ChatSummary) : Cache :=
  { c with chats := upsert ChatRow.id ChatRow.withSummary (.ofSummary s) c.chats }

/-- Put a message row. -/
def putMessage (c : Cache) (row : MessageRow) : Cache :=
  { c with messages := upsert MessageRow.key (fun _ new => new) row c.messages }

/-- Put an attachment row. -/
def putAttachment (c : Cache) (row : AttachmentRow) : Cache :=
  { c with
    attachments := upsert CachedAttachment.key CachedAttachment.keepingPath row c.attachments }

/-- Remove a chat with its messages and their attachments. -/
def dropChat (c : Cache) (chatId : String) : Cache :=
  { c with
    chats := c.chats.filter (·.id != chatId)
    messages := c.messages.filter (·.chatId != chatId)
    attachments := c.attachments.filter (·.chatId != chatId) }

/-- The cache as it is after opening: rows of messages and attachments in an older layout are
dropped, and the layout is the present one. -/
def opened (c : Cache) : Cache :=
  if c.layout < currentLayout then ⟨c.chats, [], [], currentLayout⟩
  else { c with layout := currentLayout }

end Cache
end OfflineChat
