import OfflineChat.Store.LiveView
import OfflineChat.Proofs.StoreRuns
import OfflineChat.Proofs.WriteAnnouncements

/-! # What live views keep

A watcher may be behind the cache, but then it knows: either it has lost events,
or one of the events that wait for it is relevant to its query
(`Watcher.Follows`).  Writes keep this because they announce what they change,
whoever makes them; taking an event keeps it because the watcher reads again
after every relevant one.  So a view that has taken every event shows what its
query answers (`LiveView.Tracks.getLast?_emitted`).

A run mixes the steps of a view with all that happens at a store.  An operation
of the store is one step of a run; what a view does in the middle of one is
covered too, since the writes and the halves of an operation are also steps.
-/
namespace OfflineChat

/-! ## Watchers -/

namespace Watcher

variable {w : Watcher} {c d : Cache}

/-- The watcher is going to read again: it lost events, or a relevant one is waiting. -/
def WillReread (w : Watcher) : Prop :=
  w.lagged = true ∨ ∃ e ∈ w.waiting, w.query.isRelevant e = true

/-- The watcher has emitted what its query answers, or is going to read again. -/
def Follows (w : Watcher) (c : Cache) : Prop := w.last = w.query.read c ∨ w.WillReread

@[simp] theorem announce_query (w : Watcher) (e : CacheEvent) : (w.announce e).query = w.query := by
  unfold announce; split <;> rfl

@[simp] theorem announce_last (w : Watcher) (e : CacheEvent) : (w.announce e).last = w.last := by
  unfold announce; split <;> rfl

theorem WillReread.announce (h : w.WillReread) (e : CacheEvent) : (w.announce e).WillReread := by
  unfold Watcher.announce
  split
  · rcases h with h | ⟨e', he', hr⟩
    · exact .inl h
    · exact .inr ⟨e', List.mem_append_left _ he', hr⟩
  · exact .inl rfl

theorem willReread_announce {e : CacheEvent} (h : w.query.isRelevant e = true) :
    (w.announce e).WillReread := by
  unfold Watcher.announce
  split
  · exact .inr ⟨e, by simp, h⟩
  · exact .inl rfl

theorem foldl_announce_query (w : Watcher) (es : List CacheEvent) :
    (es.foldl announce w).query = w.query := foldl_keeps announce_query es w

theorem foldl_announce_last (w : Watcher) (es : List CacheEvent) :
    (es.foldl announce w).last = w.last := foldl_keeps announce_last es w

theorem WillReread.foldl_announce (h : w.WillReread) (es : List CacheEvent) :
    (es.foldl Watcher.announce w).WillReread := by
  induction es generalizing w with
  | nil => exact h
  | cons e rest ih => exact ih (h.announce e)

theorem willReread_foldl_announce {es : List CacheEvent} {e : CacheEvent} (he : e ∈ es)
    (hr : w.query.isRelevant e = true) : (es.foldl announce w).WillReread := by
  induction es generalizing w with
  | nil => cases he
  | cons e' rest ih =>
    rcases List.mem_cons.mp he with rfl | he
    · exact (willReread_announce hr).foldl_announce rest
    · exact ih he (by rwa [announce_query])

/-- **Announcements keep a watcher following**, if the cache changes under its query only with a
relevant one among them. -/
theorem Follows.hear {es : List CacheEvent} (h : w.Follows c)
    (hread : (∀ e ∈ es, w.query.isRelevant e = false) → w.query.read d = w.query.read c) :
    (es.foldl announce w).Follows d := by
  -- a relevant announcement makes the watcher read again; without one the answer is as before
  by_cases hr : ∃ e ∈ es, w.query.isRelevant e = true
  · obtain ⟨e, he, hr⟩ := hr
    exact .inr (willReread_foldl_announce he hr)
  · rcases h with h | h
    · refine .inl ?_
      rw [foldl_announce_last, foldl_announce_query, h, hread]
      exact fun e he => Bool.eq_false_iff.mpr fun hre => hr ⟨e, he, hre⟩
    · exact .inr (h.foldl_announce es)

@[simp] theorem reread_query (w : Watcher) (c : Cache) : (w.reread c).1.query = w.query := by
  unfold reread; dsimp only; split <;> rfl

@[simp] theorem reread_last (w : Watcher) (c : Cache) :
    (w.reread c).1.last = w.query.read c := by
  unfold reread
  dsimp only
  split
  · rename_i h
    exact h.symm
  · rfl

@[simp] theorem reread_waiting (w : Watcher) (c : Cache) :
    (w.reread c).1.waiting = w.waiting := by
  unfold reread; dsimp only; split <;> rfl

@[simp] theorem reread_lagged (w : Watcher) (c : Cache) : (w.reread c).1.lagged = w.lagged := by
  unfold reread; dsimp only; split <;> rfl

theorem follows_reread (w : Watcher) (c : Cache) : (w.reread c).1.Follows c :=
  .inl (by rw [reread_last, reread_query])

@[simp] theorem take_query (w : Watcher) (c : Cache) : (w.take c).1.query = w.query := by
  unfold take
  split
  · exact reread_query _ c
  · split
    · rfl
    · dsimp only
      split
      · exact reread_query _ c
      · rfl

/-- **Taking an event keeps a watcher following.** -/
theorem Follows.take (h : w.Follows c) : (w.take c).1.Follows c := by
  unfold Watcher.take
  split
  · exact follows_reread _ c
  · rename_i hlag
    split
    · exact h
    · rename_i e rest hwait
      dsimp only
      split
      · exact follows_reread _ c
      · rename_i hirr
        -- the relevant event that is waiting is not the one taken
        refine h.imp id fun hw => .inr ?_
        obtain ⟨e', he', hr⟩ := hw.resolve_left hlag
        rw [hwait] at he'
        rcases List.mem_cons.mp he' with rfl | he'
        · exact absurd hr hirr
        · exact ⟨e', he', hr⟩

/-- A watcher that has taken every event and lost none has emitted what its query answers. -/
theorem Follows.last_eq (h : w.Follows c) (hwait : w.waiting = []) (hlag : w.lagged = false) :
    w.last = w.query.read c := by
  rcases h with h | h | ⟨e, he, -⟩
  · exact h
  · rw [hlag] at h; cases h
  · rw [hwait] at he; cases he

/-! ### Catching up -/

/-- How often a watcher has to take before nothing is left for it. -/
def backlog (w : Watcher) : Nat := w.waiting.length + w.lagged.toNat

theorem take_backlog (w : Watcher) (c : Cache) : (w.take c).1.backlog = w.backlog - 1 := by
  unfold take backlog
  split
  · rename_i hlag
    simp [hlag]
  · rename_i hlag
    split
    · rename_i hwait
      simp [hwait, hlag]
    · rename_i e rest hwait
      dsimp only
      split <;> simp [hwait, hlag]

theorem backlog_le (w : Watcher) : w.backlog ≤ w.waiting.length + 1 :=
  Nat.add_le_add_left (Bool.toNat_le w.lagged) _

theorem backlog_eq_zero : w.backlog = 0 ↔ w.waiting = [] ∧ w.lagged = false := by
  simp [backlog, Bool.toNat_eq_zero]

end Watcher

/-! ## Views -/

namespace LiveQuery

/-- Writes in sequence, none of whose events is relevant to a query, leave its answer as it was. -/
theorem read_of_leadsTo {q : LiveQuery} {c d : Cache} {es : List CacheEvent}
    (h : c.LeadsTo es d) (hes : ∀ e ∈ es, q.isRelevant e = false) : q.read d = q.read c := by
  induction h with
  | refl _ => rfl
  | write hw _ ih =>
    rw [ih fun e he => hes e (List.mem_append_right _ he)]
    exact CacheWrite.read_of_irrelevant hw fun e he => hes e (List.mem_append_left _ he)

end LiveQuery

/-- Something that happens while a view is open at a store. -/
inductive ViewStep (σ : Type) where
  /-- A step of the view. -/
  | view (x : LiveStep)
  /-- A step of the store, which the view hears. -/
  | store (x : StoreStep σ)

namespace LiveView

variable {σ : Type}

/-- Take one step of a view or of its store. -/
def follow (api : ServerApi σ) (r : LiveView × Store σ) : ViewStep σ → LiveView × Store σ
  | .view x => step api r x
  | .store x =>
    let s := r.2.step api x
    (r.1.hear (newEvents r.2 s), s)

/-- Take steps one after the other. -/
def followAll (api : ServerApi σ) (r : LiveView × Store σ) (steps : List (ViewStep σ)) :
    LiveView × Store σ :=
  steps.foldl (follow api) r

/-- A view of a query whose newest emission is what its watcher emitted last. -/
structure Watches (q : LiveQuery) (v : LiveView) : Prop where
  query : v.watcher.query = q
  newest : v.emitted.getLast? = some v.watcher.last

/-- A view of a query that follows a cache. -/
structure Tracks (q : LiveQuery) (v : LiveView) (c : Cache) : Prop extends Watches q v where
  follows : v.watcher.Follows c

variable {q : LiveQuery} {v : LiveView} {c d : Cache} {es : List CacheEvent}

theorem tracks_start (q : LiveQuery) (s : Store σ) : (start q s).Tracks q s.cache :=
  ⟨⟨rfl, rfl⟩, .inl rfl⟩

theorem Watches.hear (h : v.Watches q) (es : List CacheEvent) : (v.hear es).Watches q where
  query := (Watcher.foldl_announce_query _ es).trans h.query
  newest := by
    show v.emitted.getLast? = some (es.foldl Watcher.announce v.watcher).last
    rw [Watcher.foldl_announce_last, h.newest]

theorem Tracks.hear (h : v.Tracks q c)
    (hread : (∀ e ∈ es, q.isRelevant e = false) → q.read d = q.read c) :
    (v.hear es).Tracks q d where
  toWatches := h.toWatches.hear es
  follows := by
    have hq := h.query
    subst hq
    exact h.follows.hear hread

theorem Tracks.hear_writes (h : v.Tracks q c) (hc : c.LeadsTo es d) : (v.hear es).Tracks q d :=
  h.hear (LiveQuery.read_of_leadsTo hc)

/-- Events without a change, such as those of writes before the first reading, do no harm. -/
theorem Tracks.hear_idle (h : v.Tracks q c) (es : List CacheEvent) : (v.hear es).Tracks q c :=
  h.hear fun _ => rfl

/-- What a view emits when it reads again is its newest emission from then on. -/
theorem getLast?_reread (w : Watcher) (c : Cache) {emitted : List Emission}
    (h : emitted.getLast? = some w.last) :
    (emitted ++ (w.reread c).2.toList).getLast? = some (w.reread c).1.last := by
  unfold Watcher.reread
  dsimp only
  split
  · simpa using h
  · simp

theorem getLast?_take (w : Watcher) (c : Cache) {emitted : List Emission}
    (h : emitted.getLast? = some w.last) :
    (emitted ++ (w.take c).2.toList).getLast? = some (w.take c).1.last := by
  unfold Watcher.take
  split
  · exact getLast?_reread _ c h
  · split
    · simpa using h
    · dsimp only
      split
      · exact getLast?_reread _ c h
      · simpa using h

theorem Watches.take (h : v.Watches q) (c : Cache) : (v.take c).Watches q where
  query := (Watcher.take_query _ c).trans h.query
  newest := getLast?_take v.watcher c h.newest

theorem Tracks.take (h : v.Tracks q c) : (v.take c).Tracks q c where
  toWatches := h.toWatches.take c
  follows := h.follows.take

theorem newEvents_of_eq {s t : Store σ} (h : t.events = s.events ++ es) : newEvents s t = es := by
  rw [newEvents, h, List.drop_left]

/-- A view that hears what a store announces keeps tracking its cache. -/
theorem Tracks.proceeds {s t : Store σ} (h : v.Tracks q s.cache) (hst : s.Proceeds t) :
    (v.hear (newEvents s t)).Tracks q t.cache := by
  obtain ⟨es, hc, he⟩ := hst
  rw [newEvents_of_eq he]
  exact h.hear_writes hc

/-- What changes the answer of a query is announced by an event relevant to it. -/
theorem exists_relevant_of_proceeds {s t : Store σ} (hst : s.Proceeds t)
    (hne : q.read t.cache ≠ q.read s.cache) : ∃ e ∈ newEvents s t, q.isRelevant e = true := by
  obtain ⟨es, hc, he⟩ := hst
  rw [newEvents_of_eq he]
  refine Classical.byContradiction fun hno => hne (LiveQuery.read_of_leadsTo hc fun e hmem => ?_)
  exact Bool.eq_false_iff.mpr fun hr => hno ⟨e, hmem, hr⟩

theorem proceeds_refreshFor (api : ServerApi σ) (s : Store σ) (q : LiveQuery) :
    s.Proceeds (s.refreshFor api q) := by
  cases q with
  | chats => exact s.proceeds_refreshChats api
  | messages chatId => exact s.proceeds_refreshMessages api chatId

/-- **One step** of a view or of its store keeps the view tracking the cache. -/
theorem Tracks.follow (api : ServerApi σ) {r : LiveView × Store σ} (h : r.1.Tracks q r.2.cache)
    (x : ViewStep σ) : (follow api r x).1.Tracks q (follow api r x).2.cache := by
  cases x with
  | store x => exact h.proceeds (r.2.proceeds_step api x)
  | view x =>
    cases x with
    | take => exact h.take
    | refresh =>
      show (r.1.refresh api r.2).1.Tracks q (r.1.refresh api r.2).2.cache
      unfold refresh
      split
      · have hv : ({ r.1 with refreshing := false } : LiveView).Tracks q r.2.cache :=
          ⟨⟨h.query, h.newest⟩, h.follows⟩
        exact hv.proceeds (proceeds_refreshFor api r.2 _)
      · exact h
    | write w =>
      unfold LiveView.follow step
      dsimp only
      split
      · rename_i hw
        exact h.hear_writes (.single hw)
      · exact h

theorem Tracks.followAll (api : ServerApi σ) {r : LiveView × Store σ} (h : r.1.Tracks q r.2.cache)
    (steps : List (ViewStep σ)) :
    (followAll api r steps).1.Tracks q (followAll api r steps).2.cache := by
  induction steps generalizing r with
  | nil => exact h
  | cons x rest ih => exact ih (h.follow api x)

theorem Tracks.takes (h : v.Tracks q c) (l : List Nat) :
    (l.foldl (fun v _ => v.take c) v).Tracks q c := by
  induction l generalizing v with
  | nil => exact h
  | cons _ rest ih => exact ih h.take

theorem takes_backlog (v : LiveView) (c : Cache) (l : List Nat) :
    (l.foldl (fun v _ => v.take c) v).watcher.backlog = v.watcher.backlog - l.length := by
  induction l generalizing v with
  | nil => rfl
  | cons _ rest ih =>
    rw [List.foldl_cons, ih, show (v.take c).watcher = (v.watcher.take c).1 from rfl,
      Watcher.take_backlog, List.length_cons]
    omega

theorem catchUp_backlog (v : LiveView) (c : Cache) : (v.catchUp c).watcher.backlog = 0 := by
  have hle := v.watcher.backlog_le
  rw [catchUp, takes_backlog, List.length_range]
  omega

/-- A view that tracks a cache and has nothing left to take shows what its query answers. -/
theorem Tracks.getLast?_emitted (h : v.Tracks q c) (h0 : v.watcher.backlog = 0) :
    v.emitted.getLast? = some (q.read c) := by
  obtain ⟨hwait, hlag⟩ := Watcher.backlog_eq_zero.mp h0
  rw [h.newest, h.follows.last_eq hwait hlag, h.query]

end LiveView

end OfflineChat
