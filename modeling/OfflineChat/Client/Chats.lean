import OfflineChat.Client.Basic
import OfflineChat.Server.Api

/-! # Chats over a connection

The store's requests as exchanges with a server: `Connection.api` answers each
of them over a link.
-/
namespace OfflineChat
namespace Connection

variable {σ α : Type}

/-- What a failure about a chat names. -/
def chatNamed (chatId : String) : String := "chat " ++ chatId

/-- The request that shows a text to a model. -/
def completionRequest (s : CompletionSettings) (chatId content : String) : CompletionRequest :=
  ⟨s.model, [⟨.user, content⟩], false, some chatId, s.temperature, s.maxTokens⟩

/-- The first answer of a completion. -/
def firstAnswer (c : Completion) : Except Failure String :=
  match c.choices with
  | choice :: _ => .ok choice.message.content
  | [] => .error (.payload "Completion response had no choices")

/-- Show a text to a model; its answer. -/
def complete (link : Link σ) (chatId content : String) : ClientOp σ String := fun c =>
  let body := CompletionRequest.codec.write (completionRequest c.client.completion chatId content)
  let (r, c) := fetch link Completion.codec "Chat completion" .post ["chat", "completions"]
    (.json body) c
  (r.bind firstAnswer, c)

/-- Ask for the chats that match a text. -/
def search (link : Link σ) (text : String) : ClientOp σ (List ChatSummary) := fun c =>
  match c.client.request .get ["chats", "search"] .none with
  | .error e => (.error e, c)
  | .ok r =>
    let activity := "Search chats"
    match exchange link activity { r with url := r.url.withParameter "text" text } c with
    | (.error e, c) => (.error e, c)
    | (.ok content, c) => (readContent (.list ChatSummary.codec) activity content, c)

/-- The name of the exchange that flips a flag, and the last segment of its address. -/
def flagNames : ChatFlag → String × String
  | .pinned => ("Pin chat", "pin")
  | .archived => ("Archive chat", "archive")

/-- Answer a request of the store at a time. -/
def answer (link : Link σ) (now : Int) : (r : ChatRequest) → ClientOp σ r.Answer
  | .fetchChats => fetch link (.list ChatSummary.codec) "Fetch chats" .get ["chats", ""] .none
  | .getChat id =>
    about (chatNamed id) (fetch link (Chat.codec now) "Get chat" .get ["chats", id] .none)
  | .createChat title =>
    fetch link (Chat.codec now) "Create chat" .post ["chats", "new"]
      (.json ((ChatForm.codec now).write (.titled title)))
  | .deleteChat id => fetch link .bool "Delete chat" .delete ["chats", id] .none
  | .sendMessage id content => complete link id content
  | .searchChats text => search link text
  | .toggle f id =>
    about (chatNamed id)
      (fetch link (Chat.codec now) (flagNames f).1 .post ["chats", id, (flagNames f).2] .none)
  | .listModels => fetch link Model.listCodec "List models" .get ["models"] .none

/-- A connection as a server of the store. -/
def api (link : Link σ) : ServerApi (Connection σ) where
  answer r c e :=
    let (a, c) := answer link e.now r c
    (a, c, e)

end Connection
end OfflineChat
