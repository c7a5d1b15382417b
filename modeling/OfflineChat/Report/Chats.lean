import OfflineChat.Cache.Row
import OfflineChat.Calendar
import OfflineChat.Text.Table

/-! # Reports on chats

What is printed of chats and messages, line by line, and how reports show times
and texts that are too long.
-/
namespace OfflineChat
namespace Report

/-- A time as it is printed. -/
def time (seconds : Int) : String := (Moment.ofSeconds seconds).shortText

/-- A text of at most so many characters; a longer one is cut and ends in three dots. -/
def cut (most : Nat) (s : String) : String :=
  if s.toList.length ≤ most then s else String.ofList (s.toList.take (most - 3)) ++ "..."

/-- The row of a chat in the table of chats.  Pinned ones have a star. -/
def chatRow (e : ChatListEntry) : List String :=
  [e.chat.id, (if e.chat.pinned then "* " else "") ++ cut 40 e.chat.title,
    toString e.messageCount, time e.chat.updatedAt]

/-- The list of chats. -/
def chatList (entries : List ChatListEntry) : List String :=
  if entries.isEmpty then ["No chats found."]
  else TextTable.lines ⟨.framed, ["ID", "Title", "Messages", "Updated"] :: entries.map chatRow⟩

/-- The author of a message. -/
def author (m : Message) : String :=
  match m.role with
  | .user => "you"
  | .assistant => m.model.getD "assistant"
  | .system => "system"

/-- The mark of a message that the server does not have. -/
def deliveryMark : Option MessageStatus → String
  | some .failed => " (failed)"
  | some .pending => " (pending)"
  | _ => ""

/-- A message of a thread. -/
def turn (showTimes : Bool) (status : Option MessageStatus) (m : Message) : String :=
  (if showTimes then "[" ++ time m.timestamp ++ "] " else "") ++ author m ++ deliveryMark status ++
    ": " ++ m.content

/-- A thread of the server. -/
def thread (showTimes : Bool) (messages : List Message) : List String :=
  if messages.isEmpty then ["No messages yet."] else messages.map (turn showTimes none)

/-- The cached messages of a chat. -/
def cachedThread (showTimes : Bool) (messages : List CachedMessage) : List String :=
  if messages.isEmpty then ["No cached messages."]
  else messages.map fun m => turn showTimes (some m.status) m.toMessage

/-- The chats found for a text. -/
def foundChats (query : String) (chats : List CachedChat) : List String :=
  if chats.isEmpty then ["No cached chats match '" ++ query ++ "'."]
  else chats.map fun c => c.id ++ "  " ++ c.title

/-- The messages that did not reach the server. -/
def failedMessages (messages : List CachedMessage) : List String :=
  if messages.isEmpty then ["No failed messages."]
  else messages.map fun m => m.id ++ "  [" ++ time m.timestamp ++ "] " ++ m.content

/-- A flag of a chat after it was flipped. -/
def flagLine (chatId word : String) (value : Bool) : String :=
  "Chat " ++ chatId ++ " " ++ (if value then word else "un" ++ word)

end Report
end OfflineChat
