import OfflineChat.Server.InMemory
import OfflineChat.Proofs.LiveFreshness
import OfflineChat.Proofs.RefusedWrites

/-! # When live views go stale

In a run of `FaultyStep`s the database may refuse what it is asked for.  A write
that is refused leaves views fresh, with one exception: the list of chats misses
a flip that could not be read back.  And a view that is due to read and cannot
misses what it would have read.  These are the only ways for a view to go stale
(`LiveView.Harms`), and what a view missed it shows after the next event that
concerns it.  The main statement is `LiveView.fresh_unless_harmed`.

A view that was harmed no longer tracks the cache (`LiveView.Tracks`), but it still
shows what it last read (`LiveView.Watches`), and that is enough to catch up.
-/
namespace OfflineChat

/-! ## Readings that fail -/

namespace Watcher

variable {w : Watcher} {c : Cache}

@[simp] theorem misread_query (w : Watcher) : w.misread.query = w.query := by
  unfold misread; split <;> rfl

@[simp] theorem misread_last (w : Watcher) : w.misread.last = w.last := by
  unfold misread; split <;> rfl

/-- A watcher that is not due to read takes an event as if the cache could be read. -/
theorem misread_eq_take (h : w.isDue = false) (c : Cache) : w.misread = (w.take c).1 := by
  obtain ⟨q, waiting, lagged, last⟩ := w
  obtain ⟨hlag, hnext⟩ := Bool.or_eq_false_iff.mp h
  obtain rfl : lagged = false := hlag
  cases waiting with
  | nil => rfl
  | cons e rest =>
    have hirr : q.isRelevant e = false := hnext
    simp [misread, take, hirr]

end Watcher

/-! ## Steps on a database that may refuse -/

/-- Something that happens while a view is open at a store whose database may refuse. -/
inductive FaultyStep (σ : Type) where
  /-- A step in which nothing is refused. -/
  | sound (x : ViewStep σ)
  /-- A write of the cache that is refused as given. -/
  | attempt (refusals : Nat → Option String) (w : CacheWrite)
  /-- The view takes an event, and cannot read. -/
  | misread

/-- Attempt a write of the cache. -/
def Store.attempt {σ : Type} (s : Store σ) (refusals : Nat → Option String) (w : CacheWrite) :
    Except Failure Unit × Store σ :=
  let a := w.attempt refusals s.cache
  (a.outcome, s.commit ⟨(), a.cache, a.events⟩)

namespace LiveView

variable {σ : Type} {q : LiveQuery} {v : LiveView} {r : LiveView × Store σ} {c : Cache}

/-- Take one step on a database that may refuse. -/
def undergo (api : ServerApi σ) (r : LiveView × Store σ) : FaultyStep σ → LiveView × Store σ
  | .sound x => follow api r x
  | .attempt refusals w =>
    let s := (r.2.attempt refusals w).2
    (r.1.hear (newEvents r.2 s), s)
  | .misread => (r.1.misread, r.2)

/-- Take steps one after the other. -/
def undergoAll (api : ServerApi σ) (r : LiveView × Store σ) (steps : List (FaultyStep σ)) :
    LiveView × Store σ :=
  steps.foldl (undergo api) r

/-- A view of a query misses something in a step: it is due to read and cannot, or it shows the list
of chats, and a flag is flipped that cannot be read back. -/
def Harms (q : LiveQuery) (r : LiveView × Store σ) : FaultyStep σ → Prop
  | .sound _ => False
  | .attempt refusals w => q = .chats ∧ w.LosesReadBack refusals r.2.cache
  | .misread => r.1.watcher.isDue = true

/-- In none of these steps a view misses something. -/
def Harmless (api : ServerApi σ) (q : LiveQuery) : LiveView × Store σ → List (FaultyStep σ) → Prop
  | _, [] => True
  | r, x :: rest => ¬ Harms q r x ∧ Harmless api q (undergo api r x) rest

/-- A view shows what its query answers once it has taken all it was announced, and it can catch up
with that. -/
structure IsFresh (q : LiveQuery) (r : LiveView × Store σ) : Prop where
  shows : r.1.watcher.waiting = [] → r.1.watcher.lagged = false →
    r.1.emitted.getLast? = some (q.read r.2.cache)
  nothing_waits : (r.1.catchUp r.2.cache).watcher.waiting = []
  nothing_lost : (r.1.catchUp r.2.cache).watcher.lagged = false
  catches_up : (r.1.catchUp r.2.cache).emitted.getLast? = some (q.read r.2.cache)

/-! ## What leaves a view fresh -/

theorem Tracks.isFresh (h : r.1.Tracks q r.2.cache) : IsFresh q r := by
  have h0 := catchUp_backlog r.1 r.2.cache
  obtain ⟨hwait, hlag⟩ := Watcher.backlog_eq_zero.mp h0
  have hcaught : (r.1.catchUp r.2.cache).Tracks q r.2.cache := h.takes _
  exact ⟨fun hw hl => h.getLast?_emitted (Watcher.backlog_eq_zero.mpr ⟨hw, hl⟩), hwait, hlag,
    hcaught.getLast?_emitted h0⟩

theorem Watches.misread (h : v.Watches q) : v.misread.Watches q where
  query := v.watcher.misread_query.trans h.query
  newest := by
    show v.emitted.getLast? = some v.watcher.misread.last
    rw [Watcher.misread_last, h.newest]

theorem Tracks.misread (h : v.Tracks q c) (hdue : v.watcher.isDue = false) :
    v.misread.Tracks q c where
  toWatches := h.toWatches.misread
  follows := by
    show v.watcher.misread.Follows c
    rw [Watcher.misread_eq_take hdue c]
    exact h.follows.take

/-- What a view hears of a write that may be refused. -/
theorem newEvents_attempt (s : Store σ) (refusals : Nat → Option String) (w : CacheWrite) :
    newEvents s (s.attempt refusals w).2 = (w.attempt refusals s.cache).events :=
  newEvents_of_eq (Store.commit_events s ⟨(), _, _⟩)

/-- **A write that may be refused announces what it changes of a query**, or it is a flip that could
not be read back, and the query that of the list of chats. -/
theorem read_of_attempt {refusals : Nat → Option String} {w : CacheWrite}
    (hes : ∀ e ∈ (w.attempt refusals c).events, q.isRelevant e = false)
    (hkept : ¬ (q = .chats ∧ w.LosesReadBack refusals c)) :
    q.read (w.attempt refusals c).cache = q.read c := by
  obtain ⟨-, hrun⟩ | ⟨-, reason, h⟩ | ⟨hlost, f, chatId, reason, rfl, h⟩ :=
    w.attempt_cases refusals c
  · exact CacheWrite.read_of_irrelevant hrun hes
  · rw [h]
  · -- the flip touches no message
    rw [h]
    cases q with
    | chats => exact absurd ⟨rfl, hlost⟩ hkept
    | messages id =>
      refine congrArg Emission.messages (Cache.messagesOf_congr ?_)
      show (c.toggle f chatId).cache.messages.filter _ = _
      unfold Cache.toggle
      split <;> rfl

theorem Tracks.undergo (api : ServerApi σ) (h : r.1.Tracks q r.2.cache) {x : FaultyStep σ}
    (hx : ¬ Harms q r x) : (undergo api r x).1.Tracks q (undergo api r x).2.cache := by
  cases x with
  | sound x => exact h.follow api x
  | attempt refusals w =>
    refine h.hear fun hes => ?_
    rw [newEvents_attempt] at hes
    exact read_of_attempt hes hx
  | misread => exact h.misread (Bool.eq_false_iff.mpr hx)

theorem Tracks.undergoAll (api : ServerApi σ) (h : r.1.Tracks q r.2.cache)
    {steps : List (FaultyStep σ)} (hsteps : Harmless api q r steps) :
    (undergoAll api r steps).1.Tracks q (undergoAll api r steps).2.cache := by
  induction steps generalizing r with
  | nil => exact h
  | cons x rest ih => exact ih (h.undergo api hsteps.1) hsteps.2

/-! ## Catching up -/

theorem newEvents_self (s : Store σ) : newEvents s s = [] :=
  newEvents_of_eq (List.append_nil _).symm

/-- In each step a view hears what its store announces, or nothing is announced. -/
theorem undergo_cases (api : ServerApi σ) (r : LiveView × Store σ) (x : FaultyStep σ) :
    (∃ v : LiveView, v.watcher = r.1.watcher ∧ v.emitted = r.1.emitted ∧
      (undergo api r x).1 = v.hear (newEvents r.2 (undergo api r x).2)) ∨
    ((undergo api r x).2 = r.2 ∧
      ((undergo api r x).1 = r.1.take r.2.cache ∨ (undergo api r x).1 = r.1.misread)) := by
  cases x with
  | attempt refusals w => exact .inl ⟨r.1, rfl, rfl, rfl⟩
  | misread => exact .inr ⟨rfl, .inr rfl⟩
  | sound x =>
    cases x with
    | store x => exact .inl ⟨r.1, rfl, rfl, rfl⟩
    | view x =>
      cases x with
      | take => exact .inr ⟨rfl, .inl rfl⟩
      | refresh =>
        left
        show ∃ v : LiveView, _ ∧ _ ∧
          (r.1.refresh api r.2).1 = v.hear (newEvents r.2 (r.1.refresh api r.2).2)
        unfold refresh
        split
        · exact ⟨{ r.1 with refreshing := false }, rfl, rfl, rfl⟩
        · exact ⟨r.1, rfl, rfl, by rw [newEvents_self]; rfl⟩
      | write w =>
        left
        show ∃ v : LiveView, _ ∧ _ ∧
          (step api r (.write w)).1 = v.hear (newEvents r.2 (step api r (.write w)).2)
        unfold step
        dsimp only
        split
        · exact ⟨r.1, rfl, rfl, by rw [newEvents_of_eq (Store.commit_events _ _)]⟩
        · exact ⟨r.1, rfl, rfl, by rw [newEvents_self]; rfl⟩

theorem Watches.undergo (api : ServerApi σ) (h : r.1.Watches q) (x : FaultyStep σ) :
    (undergo api r x).1.Watches q := by
  obtain ⟨v, hwatcher, hemitted, hv⟩ | ⟨-, hv | hv⟩ := undergo_cases api r x
  · have hsame : v.Watches q := ⟨by rw [hwatcher, h.query], by rw [hemitted, hwatcher, h.newest]⟩
    rw [hv]
    exact hsame.hear _
  · rw [hv]
    exact h.take _
  · rw [hv]
    exact h.misread

theorem Watches.undergoAll (api : ServerApi σ) (h : r.1.Watches q) (steps : List (FaultyStep σ)) :
    (undergoAll api r steps).1.Watches q := by
  induction steps generalizing r with
  | nil => exact h
  | cons x rest ih => exact ih (h.undergo api x)

/-- **A view that hears an event relevant to its query follows the cache again**, whatever it had
missed. -/
theorem Watches.tracks_undergo (api : ServerApi σ) (h : r.1.Watches q) {x : FaultyStep σ}
    (hx : ∃ e ∈ newEvents r.2 (LiveView.undergo api r x).2, q.isRelevant e = true) :
    (LiveView.undergo api r x).1.Tracks q (LiveView.undergo api r x).2.cache := by
  refine ⟨h.undergo api x, .inr ?_⟩
  obtain ⟨e, he, hrel⟩ := hx
  obtain ⟨v, hwatcher, -, hv⟩ | ⟨hsame, -⟩ := undergo_cases api r x
  · rw [hv]
    refine Watcher.willReread_foldl_announce he ?_
    rwa [hwatcher, h.query]
  · rw [hsame, newEvents_self] at he
    cases he

/-- **A view goes stale only by what it misses.**  Whatever the database refuses, a write that
changes the messages of a chat announces an event that affects them.  One that changes the list of
chats announces something, unless it is a flip that could not be read back; and one that fails
announces nothing, and leaves the cache as it was, unless it is such a flip.  So a view shows what
its query answers if it has taken all it was announced and nothing harmed it: it could read whenever
it was due to, and it does not show the list of chats, or there was no such flip.  What a view
missed it makes up for at the next event that is relevant to it. -/
theorem fresh_unless_harmed (api : ServerApi σ) :
    (∀ (refusals : Nat → Option String) (c : Cache) (w : CacheWrite),
      let a := w.attempt refusals c
      (∀ chatId, a.cache.messagesOf chatId ≠ c.messagesOf chatId →
        ∃ e ∈ a.events, e.affectsMessagesOf chatId = true) ∧
      (a.cache.activeChats ≠ c.activeChats → ¬ w.LosesReadBack refusals c → a.events ≠ []) ∧
      (a.outcome ≠ .ok () → a.events = [] ∧ (a.cache = c ↔ ¬ w.LosesReadBack refusals c))) ∧
    ∀ (q : LiveQuery) (s : Store σ) (early : List CacheEvent) (steps : List (FaultyStep σ)),
      let opened := ((start q s).hear early, s)
      let r := undergoAll api opened steps
      (Harmless api q opened steps → IsFresh q r) ∧
      ∀ (x : FaultyStep σ) (more : List (FaultyStep σ)),
        (∃ e ∈ newEvents r.2 (undergo api r x).2, q.isRelevant e = true) →
        Harmless api q (undergo api r x) more → IsFresh q (undergoAll api r (x :: more)) := by
  constructor
  · intro refusals c w
    refine ⟨fun chatId hne => ?_, fun hne hkept hnil => hne ?_, fun hfails => ?_⟩
    · by_contra hno
      refine hne (Emission.messages.inj (read_of_attempt (q := .messages chatId) (fun e he => ?_)
        fun h => nomatch h.1))
      exact Bool.eq_false_iff.mpr fun hrel => hno ⟨e, he, hrel⟩
    · refine Emission.chats.inj (read_of_attempt (q := .chats) (fun e he => ?_) fun h => hkept h.2)
      rw [hnil] at he
      cases he
    · obtain ⟨hok, -⟩ | ⟨hkept, reason, h⟩ | ⟨hlost, f, chatId, reason, rfl, h⟩ :=
        w.attempt_cases refusals c
      · exact absurd hok hfails
      · rw [h]
        exact ⟨rfl, iff_of_true rfl hkept⟩
      · rw [h]
        exact ⟨rfl, iff_of_false (Cache.toggle_ne hlost.1) (not_not_intro hlost)⟩
  · intro q s early steps
    have hstart : ((start q s).hear early).Tracks q s.cache := (tracks_start q s).hear_idle early
    refine ⟨fun hsteps => ?_, fun x more hx hmore => ?_⟩
    · exact (Tracks.undergoAll api (r := (_, s)) hstart hsteps).isFresh
    · have hwatches := Watches.undergoAll api (r := (_, s)) hstart.toWatches steps
      exact ((hwatches.tracks_undergo api hx).undergoAll api hmore).isFresh

/-- A store that has one chat, and a server that has none. -/
def loneStore : Store InMemoryServer where
  cache := {
    chats := [.ofChat (.onDevice "c" "Tides" 1)]
    messages := []
    attachments := []
    layout := Cache.currentLayout }
  server := .empty
  surroundings := ⟨20, fun _ => "new", 0⟩
  defaultTitle := Store.usualTitle
  trace := []

/-- A database that refuses one step of a write. -/
def failingAt (k : Nat) (n : Nat) : Option String := if n = k then some "disk I/O error" else none

theorem fresh_unless_harmed_removed :
    let q := LiveQuery.messages "c"
    let steps := [.attempt (failingAt 4) (.toggle .pinned "c"), .misread]
    let r := undergoAll InMemoryServer.api ((start q loneStore).hear [], loneStore) steps
    let removal : FaultyStep InMemoryServer := .attempt (failingAt 5) (.deleteChat "c")
    let more := [.misread, .sound (.view .take), .attempt (failingAt 3) (.toggle .archived "d")]
    Harmless InMemoryServer.api q ((start q loneStore).hear [], loneStore) steps ∧ IsFresh q r ∧
    CacheEvent.messages "c" ∈ newEvents r.2 (undergo InMemoryServer.api r removal).2 ∧
    Harmless InMemoryServer.api q (undergo InMemoryServer.api r removal) more ∧
    IsFresh q (undergoAll InMemoryServer.api r (removal :: more)) := by
  intro q steps r removal more
  obtain ⟨hfresh, hagain⟩ :=
    (fresh_unless_harmed InMemoryServer.api).2 q loneStore [] steps
  have hsteps : Harmless InMemoryServer.api q ((start q loneStore).hear [], loneStore) steps :=
    And.intro (fun h => nomatch h.1) (And.intro Bool.false_ne_true trivial)
  have hheard : CacheEvent.messages "c" ∈
      newEvents r.2 (undergo InMemoryServer.api r removal).2 :=
    .tail _ (.head _)
  have hmore : Harmless InMemoryServer.api q (undergo InMemoryServer.api r removal) more :=
    And.intro Bool.false_ne_true (And.intro id (And.intro (fun h => nomatch h.1) trivial))
  exact ⟨hsteps, hfresh hsteps, hheard, hmore, hagain removal more ⟨_, hheard, rfl⟩ hmore⟩

/-- A flip that cannot be read back fails, and yet the chat is pinned, nothing is announced, and the
list of chats shows it as it was. -/
theorem unread_flip_missed :
    let a := (CacheWrite.toggle .pinned "c").attempt (failingAt 4) loneStore.cache
    let r := undergoAll InMemoryServer.api (start .chats loneStore, loneStore)
      [.attempt (failingAt 4) (.toggle .pinned "c")]
    a.outcome = .error (.storage "Failed to query chat: disk I/O error") ∧ a.events = [] ∧
    a.cache.activeChats ≠ loneStore.cache.activeChats ∧
    r.2.cache = a.cache ∧ r.1.watcher.waiting = [] ∧ r.1.watcher.lagged = false ∧
    r.1.emitted.getLast? ≠ some (LiveQuery.chats.read r.2.cache) := by
  intro a r
  have hone (c : Cache) (row : ChatRow) (hrows : c.chats.filter (·.archived == 0) = [row]) :
      c.activeChats = [c.entryOf row] := by
    rw [Cache.activeChats, hrows, List.mergeSort_singleton, List.map_singleton]
  have hbefore := hone loneStore.cache (.ofChat (.onDevice "c" "Tides" 1)) (by decide)
  have hafter := hone a.cache ((ChatRow.ofChat (.onDevice "c" "Tides" 1)).flip .pinned) (by decide)
  have hchanged : a.cache.activeChats ≠ loneStore.cache.activeChats := by
    rw [hbefore, hafter]
    intro h
    have hpinned := congrArg (List.map (·.chat.pinned)) h
    revert hpinned
    decide
  refine ⟨rfl, rfl, hchanged, rfl, rfl, rfl, fun h => hchanged ?_⟩
  exact (Emission.chats.inj (Option.some.inj h)).symm

end LiveView
end OfflineChat
