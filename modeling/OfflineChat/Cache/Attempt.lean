import OfflineChat.Cache.Write

/-! # Writes on a database that refuses

A write asks the database for one thing after the other: to be opened, to begin a
transaction, to change a row, to commit, to read a row back.  The database may
refuse any of it, because the disk is full or somebody else has the lock, and then
the write ends there.  What it changed in a transaction that is not committed is
taken back; what it changed outside of one stays.

`CacheWrite.attempt` is a write on a database that refuses what it likes.  It
leaves a cache and the events it announced behind whether it fails or not.
`CacheWrite.run` is what comes of it when nothing is refused.
-/
namespace OfflineChat

/-- What a write does, one thing after the other. -/
inductive WriteStep where
  /-- Ask for something that changes no row. -/
  | ask (doing : String)
  /-- Begin a transaction. -/
  | transaction
  /-- Change rows; the change may break a rule of the tables. -/
  | change (doing : String) (f : Cache → Except String Cache)
  /-- Commit the transaction. -/
  | commit
  /-- Announce an event. -/
  | announce (e : CacheEvent)

/-- A write that is under way. -/
structure Underway where
  /-- The rows as the write sees them. -/
  cache : Cache
  /-- The rows as they were when the transaction began, while one is open. -/
  before : Option Cache
  /-- What was announced. -/
  events : List CacheEvent

/-- What a write leaves behind, whether it fails or not. -/
structure Aftermath where
  outcome : Except Failure Unit
  cache : Cache
  events : List CacheEvent

/-- The write ends: a transaction that is still open is taken back. -/
def Underway.finish (s : Underway) (outcome : Except Failure Unit) : Aftermath :=
  ⟨outcome, s.before.getD s.cache, s.events⟩

/-- What the database answers, if it is asked for `r` and may have a reason to refuse. -/
def answered {α : Type} (doing : String) (refusal : Option String) (r : Except String α) :
    Except Failure α :=
  (refusal.elim r .error).mapError fun reason => .storage (doing ++ ": " ++ reason)

namespace WriteStep

/-- Take a step.  An announcement is nothing the database could refuse. -/
def take (refusal : Option String) (s : Underway) : WriteStep → Except Failure Underway
  | .ask doing => answered doing refusal (.ok s)
  | .transaction =>
    answered "Failed to start transaction" refusal (.ok { s with before := some s.cache })
  | .change doing f =>
    answered doing refusal ((f s.cache).map fun c => { s with cache := c })
  | .commit => answered "Failed to commit transaction" refusal (.ok { s with before := none })
  | .announce e => .ok { s with events := s.events ++ [e] }

/-! ## The statements of the cache -/

/-- Open the database. -/
def connect : List WriteStep :=
  [.ask "Failed to open database", .ask "Failed to set busy timeout",
    .ask "Failed to enable foreign keys"]

/-- The rule that a row belongs to one that is there. -/
def referring (c : Cache) (there : Bool) : Except String Cache :=
  if there then .ok c else .error "FOREIGN KEY constraint failed"

/-- Put a row of the server's list. -/
def putSummary (s : ChatSummary) : WriteStep :=
  .change "Failed to upsert chat" fun c => .ok (c.putSummary s)

/-- Put a chat. -/
def putChat (chat : CachedChat) : WriteStep :=
  .change "Failed to upsert chat" fun c => .ok (c.putChat (.ofChat chat))

/-- Put a message of a cached chat. -/
def putMessage (m : CachedMessage) : WriteStep :=
  .change "Failed to upsert message" fun c =>
    referring (c.putMessage (.ofMessage m)) (c.hasChat m.chatId)

/-- Put an attachment of a cached message. -/
def putAttachment (a : CachedAttachment) : WriteStep :=
  .change "Failed to upsert attachment" fun c =>
    referring (c.putAttachment a) (c.messages.any (·.key == a.owner))

/-- Put a message of the server as sent, and its attachments. -/
def putServerMessage (chatId : String) (m : Message) : List WriteStep :=
  putMessage (.ofMessage chatId m .sent) :: (Cache.attachmentsFor chatId m).map putAttachment

/-- Changes that are made together or not at all, and then announced. -/
def together (changes : List WriteStep) (events : List CacheEvent) : List WriteStep :=
  connect ++ .transaction :: changes ++ .commit :: events.map .announce

/-- A change that is made at once, and then announced. -/
def alone (change : WriteStep) (events : List CacheEvent) : List WriteStep :=
  connect ++ change :: events.map .announce

end WriteStep

namespace CacheWrite

open WriteStep

/-- The steps of a write.  A flag is flipped at once, and read back before the flip is announced. -/
def steps (c : Cache) : CacheWrite → List WriteStep
  | .upsertSummaries ss => together (ss.map WriteStep.putSummary) [.chats]
  | .upsertChat chat => alone (WriteStep.putChat chat) [.chats]
  | .applySnapshot chat thread =>
    together (WriteStep.putChat (.ofChat chat) :: thread.flatMap (putServerMessage chat.id))
      [.chats, .messages chat.id]
  | .upsertMessage m => alone (WriteStep.putMessage m) [.chats, .messages m.chatId]
  | .setMessageStatus chatId id status =>
    let changed := fun c : Cache => c.setMessageStatus chatId id status
    alone (.change "Failed to update message status" fun c => .ok (changed c).cache)
      (changed c).events
  | .deleteChat chatId =>
    alone (.change "Failed to delete chat" fun c => .ok (c.dropChat chatId))
      [.chats, .messages chatId]
  | .toggle f chatId =>
    connect ++ .change "Failed to update chat" (fun c => .ok (c.toggle f chatId).cache) ::
      if c.hasChat chatId then [.ask "Failed to query chat", .announce .chats] else []
  | .clearAll =>
    together
      [.change "Failed to clear cache" fun c => .ok { c with attachments := [] },
        .change "Failed to clear cache" fun c => .ok { c with messages := [] },
        .change "Failed to clear cache" fun c => .ok { c with chats := [] }] [.cleared]

/-- Take steps until one fails.  The database refuses the step number `n` for the reason
`refusals n`, if that is one. -/
def carryOut (refusals : Nat → Option String) (s : Underway) : List WriteStep → Aftermath
  | [] => s.finish (.ok ())
  | x :: rest =>
    match x.take (refusals 0) s with
    | .ok s => carryOut (fun n => refusals (n + 1)) s rest
    | .error e => s.finish (.error e)

/-- Attempt a write. -/
def attempt (refusals : Nat → Option String) (c : Cache) (w : CacheWrite) : Aftermath :=
  carryOut refusals ⟨c, none, []⟩ (w.steps c)

/-- Whether a write flips a flag and then cannot read it back: it opens the database in three steps
and flips the flag of a cached chat in the fourth, and the fifth is refused. -/
def LosesReadBack (refusals : Nat → Option String) (c : Cache) : CacheWrite → Prop
  | .toggle _ chatId =>
    c.hasChat chatId = true ∧ (∀ n < 4, refusals n = none) ∧ refusals 4 ≠ none
  | _ => False

end CacheWrite
end OfflineChat
