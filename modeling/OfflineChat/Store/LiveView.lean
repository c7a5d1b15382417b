import OfflineChat.Store.Basic

/-! # Live views of a store

A live view emits what its query answers, then refreshes once from the server,
and from then on follows the cache.  The refresh happens beside everything else
that goes on at the store, so a run of a live view is a list of `LiveStep`s in
any order.  What a view emits is kept in `emitted`, the newest last.

In a run of `LiveStep`s the database answers whatever it is asked.
`LiveView.misread` is what a view does when it is due to read and cannot.
-/
namespace OfflineChat

/-- A live view. -/
structure LiveView where
  watcher : Watcher
  /-- Whether its refresh is still to come. -/
  refreshing : Bool
  /-- What it has emitted, in order. -/
  emitted : List Emission

/-- Something that happens while a view is open. -/
inductive LiveStep where
  /-- The view's refresh. -/
  | refresh
  /-- A write by someone else. -/
  | write (w : CacheWrite)
  /-- The view takes an event. -/
  | take

namespace LiveView

variable {σ : Type}

/-- A view that has just been opened at a store. -/
def start (q : LiveQuery) (s : Store σ) : LiveView :=
  let w := Watcher.start q s.cache
  ⟨w, true, [w.last]⟩

/-- The newest emission. -/
def newest (v : LiveView) : Emission := v.watcher.last

/-- Hear what the cache announced. -/
def hear (v : LiveView) (events : List CacheEvent) : LiveView :=
  { v with watcher := events.foldl Watcher.announce v.watcher }

/-- Take an event, and emit what has changed. -/
def take (v : LiveView) (c : Cache) : LiveView :=
  let (w, e) := v.watcher.take c
  { v with watcher := w, emitted := v.emitted ++ e.toList }

/-- Take every event there is. -/
def catchUp (v : LiveView) (c : Cache) : LiveView :=
  (List.range (v.watcher.waiting.length + 1)).foldl (fun v _ => v.take c) v

/-- The events that an operation adds to the trace of a store. -/
def newEvents (before after : Store σ) : List CacheEvent := after.events.drop before.events.length

/-- The refresh of a view, which it makes once. -/
def refresh (api : ServerApi σ) (v : LiveView) (s : Store σ) : LiveView × Store σ :=
  if v.refreshing then
    let s' := s.refreshFor api v.watcher.query
    ({ v with refreshing := false }.hear (newEvents s s'), s')
  else (v, s)

/-- Take one step. -/
def step (api : ServerApi σ) (r : LiveView × Store σ) : LiveStep → LiveView × Store σ
  | .refresh => r.1.refresh api r.2
  | .write w => match w.run r.2.cache with
    | .ok (c, events) => (r.1.hear events, r.2.commit ⟨(), c, events⟩)
    | .error _ => r
  | .take => (r.1.take r.2.cache, r.2)

/-- Take an event while the cache cannot be read. -/
def misread (v : LiveView) : LiveView := { v with watcher := v.watcher.misread }

end LiveView
end OfflineChat
