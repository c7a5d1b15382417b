import OfflineChat.Thread

/-! # Chats

A chat as the server keeps it: the tree of its messages, the models and options
it talks to them with, and what the list of chats shows of it.
-/
namespace OfflineChat

/-- The tree of messages of a chat, and its current leaf. -/
structure ChatHistory where
  currentId : Option String
  messages : MessageMap

namespace ChatHistory

/-- The history of a chat with no message. -/
def empty : ChatHistory := ⟨none, .empty⟩

/-- The fields of a history. -/
def fields (now : Int) : Fields Codec [Option String, MessageMap] :=
  .cons (.defaulted "currentId" (.option .string) none) <|
  .cons (.defaulted "messages" (.dict (Message.codec now)) .empty) .nil

/-- How histories are written, and read at the time `now`. -/
def codec (now : Int) : Codec ChatHistory :=
  .record "ChatHistory" (fields now)
    (fun (currentId, messages, _) => ⟨currentId, messages⟩)
    (fun h => (h.currentId, h.messages, ()))

end ChatHistory

/-- What a chat asks of the model, and the options of the server this program does not know. -/
structure ChatOptions where
  temperature : Option Binary
  maxTokens : Option Nat
  extra : Dict Json

namespace ChatOptions

/-- No option at all. -/
def empty : ChatOptions := ⟨none, none, .empty⟩

/-- The fields of options. -/
def fields : Fields Codec [Option Binary, Option Nat] :=
  .cons (.omitted "temperature" (.option .single) none Option.isNone) <|
  .cons (.omitted "max_tokens" (.option .nat32) none Option.isNone) .nil

/-- How options are written and read. -/
def codec : Codec ChatOptions :=
  .openRecord "ChatOptions" fields
    (fun (temperature, maxTokens, _) extra => ⟨temperature, maxTokens, extra⟩)
    (fun o => ((o.temperature, o.maxTokens, ()), o.extra))

end ChatOptions

/-- The tags of a chat, and the data of the server this program does not know. -/
structure ChatMeta where
  tags : List String
  extra : Dict Json

namespace ChatMeta

/-- No tag and no data. -/
def empty : ChatMeta := ⟨[], .empty⟩

/-- The fields of the data about a chat. -/
def fields : Fields Codec [List String] :=
  .cons (.omitted "tags" (.list .string) [] List.isEmpty) .nil

/-- How the data about a chat is written and read. -/
def codec : Codec ChatMeta :=
  .openRecord "ChatMeta" fields (fun (tags, _) extra => ⟨tags, extra⟩)
    (fun m => ((m.tags, ()), m.extra))

end ChatMeta

/-- The body of a chat. -/
structure ChatData where
  history : ChatHistory
  models : List String
  options : ChatOptions
  title : Option String

namespace ChatData

/-- A body with nothing in it. -/
def empty : ChatData := ⟨.empty, [], .empty, none⟩

/-- The fields of a body. -/
def fields (now : Int) : Fields Codec [ChatHistory, List String, ChatOptions, Option String] :=
  .cons (.defaulted "history" (ChatHistory.codec now) .empty) <|
  .cons (.defaulted "models" (.list .string) []) <|
  .cons (.defaulted "options" ChatOptions.codec .empty) <|
  .cons (.omitted "title" (.option .string) none Option.isNone) .nil

/-- How bodies are written, and read at the time `now`. -/
def codec (now : Int) : Codec ChatData :=
  .record "ChatData" (fields now)
    (fun (history, models, options, title, _) => ⟨history, models, options, title⟩)
    (fun d => (d.history, d.models, d.options, d.title, ()))

end ChatData

/-- The row of a chat in the server's list. -/
structure ChatSummary where
  id : String
  title : String
  /-- Seconds since the epoch. -/
  updatedAt : Int
  /-- Seconds since the epoch. -/
  createdAt : Int
  archived : Bool
  pinned : Bool
deriving DecidableEq, Repr

namespace ChatSummary

/-- The fields of a summary. -/
def fields : Fields Codec [String, String, Int, Int, Bool, Bool] :=
  .cons (.required "id" .string) <|
  .cons (.required "title" .string) <|
  .cons (.required "updated_at" .int64) <|
  .cons (.required "created_at" .int64) <|
  .cons (.defaulted "archived" .bool false) <|
  .cons (.defaulted "pinned" .bool false) .nil

/-- How summaries are written and read. -/
def codec : Codec ChatSummary :=
  .record "ChatSummary" fields
    (fun (id, title, updatedAt, createdAt, archived, pinned, _) =>
      ⟨id, title, updatedAt, createdAt, archived, pinned⟩)
    (fun s => (s.id, s.title, s.updatedAt, s.createdAt, s.archived, s.pinned, ()))

end ChatSummary

/-- A chat as the server answers it. -/
structure Chat where
  id : String
  userId : String
  title : String
  body : ChatData
  /-- Seconds since the epoch. -/
  updatedAt : Int
  /-- Seconds since the epoch. -/
  createdAt : Int
  shareId : Option String
  archived : Bool
  pinned : Bool
  about : ChatMeta
  folderId : Option String

namespace Chat

/-- The fields of a chat. -/
def fields (now : Int) : Fields Codec
    [String, String, String, ChatData, Int, Int, Option String, Bool, Bool, ChatMeta,
      Option String] :=
  .cons (.required "id" .string) <|
  .cons (.defaulted "user_id" .string "") <|
  .cons (.required "title" .string) <|
  .cons (.defaulted "chat" (ChatData.codec now) .empty) <|
  .cons (.required "updated_at" .int64) <|
  .cons (.required "created_at" .int64) <|
  .cons (.defaulted "share_id" (.option .string) none) <|
  .cons (.defaulted "archived" .bool false) <|
  .cons (.defaulted "pinned" .bool false) <|
  .cons (.defaulted "meta" ChatMeta.codec .empty) <|
  .cons (.defaulted "folder_id" (.option .string) none) .nil

/-- How chats are written, and read at the time `now`. -/
def codec (now : Int) : Codec Chat :=
  .record "ChatResponse" (fields now)
    (fun (id, userId, title, body, updatedAt, createdAt, shareId, archived, pinned, about,
        folderId, _) =>
      ⟨id, userId, title, body, updatedAt, createdAt, shareId, archived, pinned, about, folderId⟩)
    (fun c => (c.id, c.userId, c.title, c.body, c.updatedAt, c.createdAt, c.shareId, c.archived,
      c.pinned, c.about, c.folderId, ()))

/-- The thread that ends at the chat's current message. -/
def thread (c : Chat) : List Message :=
  c.body.history.messages.thread c.body.history.currentId

/-- What the list of chats shows of the chat. -/
def summary (c : Chat) : ChatSummary :=
  ⟨c.id, c.title, c.updatedAt, c.createdAt, c.archived, c.pinned⟩

end Chat

/-- The request for a new chat. -/
structure ChatForm where
  chat : ChatData

namespace ChatForm

/-- The request for an empty chat with a title. -/
def titled (title : String) : ChatForm := ⟨{ ChatData.empty with title := some title }⟩

/-- The fields of a request for a new chat. -/
def fields (now : Int) : Fields Codec [ChatData] :=
  .cons (.required "chat" (ChatData.codec now)) .nil

/-- How requests for a new chat are written and read. -/
def codec (now : Int) : Codec ChatForm :=
  .record "ChatForm" (fields now) (fun (chat, _) => ⟨chat⟩) (fun f => (f.chat, ()))

end ChatForm
end OfflineChat
