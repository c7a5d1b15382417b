import OfflineChat.Cache.Write

/-! # Live views

A watcher follows one query of the cache.  It emits what the query answers when
it starts; from then on it takes the announced events one by one, reads again
after an event that concerns it, and emits what it reads if that differs from
what it emitted last.  Events wait in a queue of limited room; a watcher that
lost some reads again.

`LiveQuery.read`, and with it `Watcher.start`, `Watcher.reread` and `Watcher.take`,
assume that the cache can be read.  What a watcher does when it cannot be read again
is `Watcher.misread`.
-/
namespace OfflineChat

/-- A query that can be followed. -/
inductive LiveQuery where
  | chats
  | messages (chatId : String)
deriving DecidableEq, Repr

/-- What a watcher emits. -/
inductive Emission where
  | chats (entries : List ChatListEntry)
  | messages (rows : List CachedMessage)
deriving DecidableEq, Repr

namespace LiveQuery

/-- Whether an event concerns the query. -/
def isRelevant : LiveQuery → CacheEvent → Bool
  | .chats, _ => true
  | .messages chatId, e => e.affectsMessagesOf chatId

/-- What the query answers, on a database that can be read. -/
def read (c : Cache) : LiveQuery → Emission
  | .chats => .chats c.activeChats
  | .messages chatId => .messages (c.messagesOf chatId)

end LiveQuery

/-- A watcher: its query, the events it has not taken yet, whether it lost some, and what it
emitted last. -/
structure Watcher where
  query : LiveQuery
  waiting : List CacheEvent
  lagged : Bool
  last : Emission
deriving DecidableEq, Repr

namespace Watcher

/-- How many events may wait. -/
def room : Nat := 64

/-- A watcher that has just emitted what its query answers. -/
def start (q : LiveQuery) (c : Cache) : Watcher := ⟨q, [], false, q.read c⟩

/-- An event is announced; of too many, the eldest is lost. -/
def announce (w : Watcher) (e : CacheEvent) : Watcher :=
  if w.waiting.length < room then { w with waiting := w.waiting ++ [e] }
  else { w with waiting := w.waiting.drop 1 ++ [e], lagged := true }

/-- Read again, the cache being readable: what is emitted now, if it differs from what was emitted
last. -/
def reread (w : Watcher) (c : Cache) : Watcher × Option Emission :=
  let now := w.query.read c
  if now = w.last then (w, none) else ({ w with last := now }, some now)

/-- Take one event, or notice that some were lost. -/
def take (w : Watcher) (c : Cache) : Watcher × Option Emission :=
  if w.lagged then { w with lagged := false }.reread c
  else match w.waiting with
    | [] => (w, none)
    | e :: rest =>
      let w := { w with waiting := rest }
      if w.query.isRelevant e then w.reread c else (w, none)

/-- Whether the watcher reads again when it takes the next event. -/
def isDue (w : Watcher) : Bool := w.lagged || w.waiting.head?.any w.query.isRelevant

/-- Take one event, or notice that some were lost, while the cache cannot be read.  If the watcher
was to read again, it emits nothing and does not try once more. -/
def misread (w : Watcher) : Watcher :=
  if w.lagged then { w with lagged := false } else { w with waiting := w.waiting.tail }

/-- Take so many events. -/
def takes (c : Cache) : Nat → Watcher → Watcher
  | 0, w => w
  | n + 1, w => takes c n (w.take c).1

/-- Take every event there is. -/
def catchUp (w : Watcher) (c : Cache) : Watcher := takes c (w.waiting.length + 1) w

end Watcher
end OfflineChat
