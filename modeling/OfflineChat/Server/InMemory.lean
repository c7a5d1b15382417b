import OfflineChat.Server.Api

/-! # A server in memory

A server that keeps its chats in memory and echoes what it is sent.  It can be
taken off line, and its sends can be made to fail; it counts the calls of each
operation, failed ones included.
-/
namespace OfflineChat

/-- A server in memory. -/
structure InMemoryServer where
  chats : Dict Chat
  models : List Model
  /-- How often each operation was called. -/
  calls : Dict Nat
  offline : Bool
  failSends : Bool

namespace InMemoryServer

/-- A server with no chat. -/
def empty : InMemoryServer := ⟨.empty, [], .empty, false, false⟩

/-- The id of the message with the given place in a made-up thread. -/
def threadId (chatId : String) (i : Nat) : String := chatId ++ "-m" ++ toString i

/-- The author of the message with the given place in a made-up thread: the user and the
assistant in turn. -/
def threadRole (i : Nat) : Role := if i % 2 = 0 then .user else .assistant

/-- The messages of a made-up thread from place `i` on, each under the one before it. -/
def threadMessages (chatId : String) : Nat → Option String → List String → List Message
  | _, _, [] => []
  | i, parent, content :: rest =>
    let id := threadId chatId i
    .plain id parent (threadRole i) content (i + 1) ::
      threadMessages chatId (i + 1) (some id) rest

/-- A chat that is one thread of the given texts. -/
def chatOfThread (chatId title : String) (contents : List String) : Chat :=
  let messages := threadMessages chatId 0 none contents
  { id := chatId
    userId := "fake-user"
    title := title
    body :=
      { history := ⟨messages.getLast?.map (·.id), .ofList (messages.map fun m => (m.id, m))⟩
        models := ["fake-model"]
        options := .empty
        title := some title }
    updatedAt := contents.length
    createdAt := 0
    shareId := none
    archived := false
    pinned := false
    about := .empty
    folderId := none }

/-- Add a chat, in place of one with its id. -/
def insert (s : InMemoryServer) (chat : Chat) : InMemoryServer :=
  { s with chats := s.chats.insert chat.id chat }

/-- Count a call. -/
def count (s : InMemoryServer) (operation : String) : InMemoryServer :=
  { s with calls := s.calls.insert operation ((s.calls.find? operation).getD 0 + 1) }

/-- How often an operation was called. -/
def callCount (s : InMemoryServer) (operation : String) : Nat :=
  (s.calls.find? operation).getD 0

/-- How many calls there were. -/
def totalCalls (s : InMemoryServer) : Nat := s.calls.values.foldl (· + ·) 0

/-- The failure of a request for a chat the server does not have. -/
def noChat (chatId : String) : Failure := .notFound ("chat " ++ chatId)

/-- The text a server answers a message with. -/
def echo (content : String) : String := "echo: " ++ content

/-- Append a message of the user and the answer to it to a history. -/
def appendTurn (h : ChatHistory) (userId replyId content : String) (model : Option String)
    (now : Int) : ChatHistory :=
  let messages := match h.currentId with
    | none => h.messages
    | some p => match h.messages.find? p with
      | some m => h.messages.insert p { m with childrenIds := m.childrenIds ++ [userId] }
      | none => h.messages
  let user := Message.plain userId h.currentId .user content now
  let reply := { Message.plain replyId (some userId) .assistant (echo content) now with
    model := model }
  ⟨some replyId, (messages.insert userId user).insert replyId reply⟩

/-- The chat after a message and the answer to it. -/
def withTurn (chat : Chat) (userId replyId content : String) (now : Int) : Chat :=
  { chat with
    body := { chat.body with
      history := appendTurn chat.body.history userId replyId content chat.body.models.head? now }
    updatedAt := now }

/-- The chat with a flag flipped. -/
def flip (chat : Chat) : ChatFlag → Chat
  | .pinned => { chat with pinned := !chat.pinned }
  | .archived => { chat with archived := !chat.archived }

/-- The chats that are not archived, the later changed first. -/
def activeSummaries (s : InMemoryServer) : List ChatSummary :=
  ((s.chats.values.filter (!·.archived)).map (·.summary)).mergeSort
    fun a b => decide (b.updatedAt ≤ a.updatedAt)

/-- The chats whose title holds a text, whatever the case. -/
def matching (s : InMemoryServer) (text : String) : List ChatSummary :=
  (s.chats.values.filter fun c => Text.contains (Text.lower c.title) (Text.lower text)).map
    (·.summary)

/-- The answer of a server that can be reached. -/
def respond (s : InMemoryServer) (e : Surroundings) :
    (r : ChatRequest) → Except Failure r.Answer × InMemoryServer × Surroundings
  | .fetchChats => (.ok s.activeSummaries, s, e)
  | .getChat id => match s.chats.find? id with
    | some chat => (.ok chat, s, e)
    | none => (.error (noChat id), s, e)
  | .createChat title =>
    let (id, e) := e.draw
    let chat := { chatOfThread id title [] with createdAt := e.now, updatedAt := e.now }
    (.ok chat, s.insert chat, e)
  | .deleteChat id =>
    (.ok (s.chats.find? id).isSome, { s with chats := s.chats.erase id }, e)
  | .sendMessage id content =>
    if s.failSends then (.error (.status 500 "completion failed"), s, e)
    else match s.chats.find? id with
      | none => (.error (noChat id), s, e)
      | some chat =>
        let (userId, e) := e.draw
        let (replyId, e) := e.draw
        (.ok (echo content),
          { s with chats := s.chats.insert id (withTurn chat userId replyId content e.now) }, e)
  | .searchChats text => (.ok (s.matching text), s, e)
  | .toggle f id => match s.chats.find? id with
    | none => (.error (noChat id), s, e)
    | some chat => (.ok (flip chat f), { s with chats := s.chats.insert id (flip chat f) }, e)
  | .listModels => (.ok s.models, s, e)

/-- The server in memory answers as `respond` says, unless it is off line. -/
def api : ServerApi InMemoryServer where
  answer r s e :=
    let s := s.count r.operation
    if s.offline then (.error (.network (r.operation ++ ": connection refused")), s, e)
    else s.respond e r

end InMemoryServer
end OfflineChat
