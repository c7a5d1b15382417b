import OfflineChat.Server.Api
import OfflineChat.Cache.Live
import OfflineChat.Text.Split

/-! # The offline store

The store answers from the cache and keeps the cache in step with a server.  A
write changes the cache first and is then passed on; whatever the server does,
nothing the user wrote is lost.  The store keeps a trace of what it announced
and of what it asked, each request with the cache as it was when it went out.
-/
namespace OfflineChat

/-- Something the store did that others can see. -/
inductive Occurrence where
  /-- A write of the cache was announced. -/
  | announced (e : CacheEvent)
  /-- A request went out while the cache was as given. -/
  | asked (r : ChatRequest) (seen : Cache)

/-- The state of the store, over the states of a server. -/
structure Store (σ : Type) where
  cache : Cache
  server : σ
  surroundings : Surroundings
  /-- The title of a chat that is given none. -/
  defaultTitle : String
  /-- What the store did, in order. -/
  trace : List Occurrence

/-- An operation of the store: it answers or fails, and leaves a state behind either way. -/
abbrev StoreOp (σ α : Type) := Store σ → Except Failure α × Store σ

namespace Store

variable {σ α : Type}

/-- The title of a chat that is given none, unless something else is said. -/
def usualTitle : String := "New Chat"

/-- Take over what a write left behind. -/
def commit (s : Store σ) (w : Written α) : Store σ :=
  { s with cache := w.cache, trace := s.trace ++ w.events.map .announced }

/-- Ask the server. -/
def ask (api : ServerApi σ) (s : Store σ) (r : ChatRequest) : Except Failure r.Answer × Store σ :=
  let (a, server, surroundings) := api.answer r s.server s.surroundings
  (a, { s with
    server := server, surroundings := surroundings, trace := s.trace ++ [.asked r s.cache] })

/-- Draw a fresh id. -/
def draw (s : Store σ) : String × Store σ :=
  let (id, surroundings) := s.surroundings.draw
  (id, { s with surroundings := surroundings })

/-- The events announced in the trace. -/
def events (s : Store σ) : List CacheEvent :=
  s.trace.filterMap fun
    | .announced e => some e
    | _ => none

/-- The requests in the trace, each with the cache as it was. -/
def requests (s : Store σ) : List (ChatRequest × Cache) :=
  s.trace.filterMap fun
    | .asked r c => some (r, c)
    | _ => none

/-! ## Refreshing -/

/-- Take over the server's list of chats; how many it has. -/
def refreshChats (api : ServerApi σ) : StoreOp σ Nat := fun s =>
  match s.ask api .fetchChats with
  | (.ok summaries, s) => (.ok summaries.length, s.commit (s.cache.upsertSummaries summaries))
  | (.error e, s) => (.error e, s)

/-- Take over a chat of the server with its thread; the thread. -/
def refreshMessages (api : ServerApi σ) (chatId : String) : StoreOp σ (List Message) := fun s =>
  match s.ask api (.getChat chatId) with
  | (.ok chat, s) => (.ok chat.thread, s.commit (s.cache.applySnapshot chat chat.thread))
  | (.error e, s) => (.error e, s)

/-! ## Sending -/

/-- The message a send puts into the cache: pending, under the newest message that has not
failed. -/
def pendingMessage (c : Cache) (chatId content messageId : String) (now : Int) : CachedMessage :=
  .ofMessage chatId
    (.plain messageId ((c.latestMessageOf chatId).map (·.id)) .user content now) .pending

/-- See that a chat has a row, if only one that stands in for it. -/
def ensureChat (s : Store σ) (chatId : String) : Store σ :=
  if s.cache.hasChat chatId then s
  else s.commit (s.cache.upsertChat (.onDevice chatId s.defaultTitle s.surroundings.now))

/-- The half of a send that happens here: the message is cached as pending. -/
def beginSend (chatId content messageId : String) : StoreOp σ CachedMessage := fun s =>
  let s := s.ensureChat chatId
  let m := pendingMessage s.cache chatId content messageId s.surroundings.now
  match s.cache.upsertMessage m with
  | .ok w => (.ok m, s.commit w)
  | .error e => (.error e, s)

/-- The status of a message once the server has answered. -/
def outcome (r : Except Failure α) : MessageStatus :=
  match r with
  | .ok _ => .sent
  | .error _ => .failed

/-- The other half of a send: the message is marked. -/
def completeSend (chatId messageId : String) (status : MessageStatus) (s : Store σ) : Store σ :=
  s.commit (s.cache.setMessageStatus chatId messageId status)

/-- Send a text to a chat; the answer to it.  The text is cached before anything goes out and
stays cached, as sent or as failed. -/
def sendMessage (api : ServerApi σ) (chatId content : String) : StoreOp σ String := fun s =>
  let (messageId, s) := s.draw
  match s.beginSend chatId content messageId with
  | (.error e, s) => (.error e, s)
  | (.ok _, s) =>
    let (reply, s) := s.ask api (.sendMessage chatId content)
    (reply, s.completeSend chatId messageId (outcome reply))

/-! ## Creating, deleting and flipping -/

/-- The title of a new chat: without blanks around it, and the default one if nothing is left. -/
def chosenTitle (s : Store σ) (title : Option String) : String :=
  match title.map Text.trim with
  | none => s.defaultTitle
  | some t => if t = "" then s.defaultTitle else t

/-- Create a chat on the server and cache it.  If that fails on the server's side, a chat is
created on this device only, and the failure names it. -/
def createChat (api : ServerApi σ) (title : Option String) : StoreOp σ CachedChat := fun s =>
  let title := s.chosenTitle title
  match s.ask api (.createChat title) with
  | (.ok chat, s) =>
    let row := CachedChat.ofChat chat
    (.ok row, s.commit (s.cache.upsertChat row))
  | (.error e, s) =>
    if e.isRemote then
      let (localId, s) := s.draw
      (.error (.offlineFallback localId e.message),
        s.commit (s.cache.upsertChat (.onDevice localId title s.surroundings.now)))
    else (.error e, s)

/-- Delete a chat here, then on the server, whose answer does not matter. -/
def deleteChat (api : ServerApi σ) (chatId : String) : StoreOp σ Bool := fun s =>
  let s := s.commit (s.cache.deleteChat chatId)
  let (_, s) := s.ask api (.deleteChat chatId)
  (.ok true, s)

/-- Flip a flag of a cached chat here, then on the server, and take over what the server answers.
A failure of the server leaves the flag flipped here. -/
def toggle (api : ServerApi σ) (f : ChatFlag) (chatId : String) : StoreOp σ CachedChat := fun s =>
  let w := s.cache.toggle f chatId
  let s := s.commit w
  match w.value with
  | none => (.error (.notFound ("chat " ++ chatId)), s)
  | some _ => match s.ask api (.toggle f chatId) with
    | (.error e, s) => (.error e, s)
    | (.ok chat, s) =>
      let row := CachedChat.ofChat chat
      (.ok row, s.commit (s.cache.upsertChat row))

/-! ## Reading -/

/-- The list of cached chats. -/
def cachedChats : StoreOp σ (List ChatListEntry) := fun s => (.ok s.cache.activeChats, s)

/-- The cached messages of a chat. -/
def cachedMessages (chatId : String) : StoreOp σ (List CachedMessage) :=
  fun s => (.ok (s.cache.messagesOf chatId), s)

/-- A cached chat. -/
def cachedChat (chatId : String) : StoreOp σ (Option CachedChat) :=
  fun s => (.ok (s.cache.chat? chatId), s)

/-- The cached attachments of a message. -/
def attachments (chatId messageId : String) : StoreOp σ (List CachedAttachment) :=
  fun s => (.ok (s.cache.attachmentsOf chatId messageId), s)

/-- The cached chats whose title holds a text. -/
def searchChats (query : String) : StoreOp σ (List CachedChat) :=
  fun s => (.ok (s.cache.searchChats query), s)

/-- The cached messages of a chat that did not reach the server. -/
def failedMessages (chatId : String) : StoreOp σ (List CachedMessage) :=
  fun s => (.ok (s.cache.failedMessagesOf chatId), s)

/-- How many chats are cached. -/
def offlineChatCount : StoreOp σ Nat := fun s => (.ok s.cache.chatCount, s)

/-- How many rows are cached. -/
def stats : StoreOp σ CacheStats := fun s => (.ok s.cache.stats, s)

/-- Remove every cached row. -/
def clearAll : StoreOp σ Unit := fun s => (.ok (), s.commit s.cache.clearAll)

/-- The refresh that goes with a live view.  Its failure is of no consequence. -/
def refreshFor (api : ServerApi σ) (q : LiveQuery) (s : Store σ) : Store σ :=
  match q with
  | .chats => (s.refreshChats api).2
  | .messages chatId => (s.refreshMessages api chatId).2

end Store
end OfflineChat
