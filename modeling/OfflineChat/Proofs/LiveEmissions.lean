import OfflineChat.Proofs.ChatMessages
import OfflineChat.Proofs.FailureTraces
import OfflineChat.Proofs.RepeatedRefreshes

/-! # What live views emit

A view emits only when it takes an event, and then only what its query answers at
that moment, if that differs from its newest emission (`LiveView.follow_cases`).
So the emissions of a run are answers that its steps brought about, in the order
of the steps and none of them twice for one change (`LiveView.emits_followAll`):
there are never more of them than changes of the answer.  A step that leaves the
answer as it was adds nothing, whatever it announces.

The refresh is one of the steps.  The view makes it once, however often it has the
chance (`LiveView.asked_eq`), and a refresh that fails leaves the view as it was.
The main statement is `LiveView.emissions_follow_changes`.

The cache can be read throughout, as `LiveQuery.read` assumes.  What becomes of a view
that is due to read and cannot is in `OfflineChat.Proofs.StaleViews`.
-/
namespace OfflineChat

/-- What the refresh of a view asks the server for. -/
def LiveQuery.request : LiveQuery → ChatRequest
  | .chats => .fetchChats
  | .messages chatId => .getChat chatId

/-! ## One event -/

namespace Watcher

theorem reread_cases (w : Watcher) (c : Cache) :
    w.reread c = (w, none) ∨ w.last ≠ w.query.read c ∧
      w.reread c = ({ w with last := w.query.read c }, some (w.query.read c)) := by
  by_cases h : w.query.read c = w.last
  · exact .inl (if_pos h)
  · exact .inr ⟨fun he => h he.symm, if_neg h⟩

/-- A watcher that takes an event emits nothing, or what its query answers, which is news. -/
theorem take_cases (w : Watcher) (c : Cache) :
    (w.take c).2 = none ∧ (w.take c).1.last = w.last ∨
      w.last ≠ w.query.read c ∧ (w.take c).2 = some (w.query.read c) ∧
        (w.take c).1.last = w.query.read c := by
  have hreread (w' : Watcher) (hq : w'.query = w.query) (hl : w'.last = w.last) :
      (w'.reread c).2 = none ∧ (w'.reread c).1.last = w.last ∨
        w.last ≠ w.query.read c ∧ (w'.reread c).2 = some (w.query.read c) ∧
          (w'.reread c).1.last = w.query.read c := by
    rw [← hq, ← hl]
    rcases w'.reread_cases c with h | ⟨hne, h⟩
    · rw [h]; exact .inl ⟨rfl, rfl⟩
    · rw [h]; exact .inr ⟨hne, rfl, rfl⟩
  unfold take
  split
  · exact hreread { w with lagged := false } rfl rfl
  · split
    · exact .inl ⟨rfl, rfl⟩
    · rename_i e rest _
      dsimp only
      split
      · exact hreread { w with waiting := rest } rfl rfl
      · exact .inl ⟨rfl, rfl⟩

end Watcher

namespace LiveView

variable {σ : Type} (api : ServerApi σ)

/-- A view that hears announcements emits nothing yet. -/
theorem hear_emitted (v : LiveView) (es : List CacheEvent) :
    (v.hear es).emitted = v.emitted ∧ (v.hear es).newest = v.newest :=
  ⟨rfl, Watcher.foldl_announce_last v.watcher es⟩

@[simp] theorem hear_query (v : LiveView) (es : List CacheEvent) :
    (v.hear es).watcher.query = v.watcher.query := Watcher.foldl_announce_query v.watcher es

@[simp] theorem follow_query (r : LiveView × Store σ) (x : ViewStep σ) :
    (follow api r x).1.watcher.query = r.1.watcher.query := by
  cases x with
  | store x => exact hear_query _ _
  | view x =>
    cases x with
    | take => exact Watcher.take_query _ _
    | refresh =>
      show (r.1.refresh api r.2).1.watcher.query = _
      unfold refresh
      split
      · exact hear_query _ _
      · rfl
    | write w =>
      unfold follow step
      dsimp only
      split
      · exact hear_query _ _
      · rfl

/-- **A step of a run emits nothing, or it takes an event and emits what the query answers**, which
is then no repetition of the newest emission. -/
theorem follow_cases (r : LiveView × Store σ) (x : ViewStep σ) :
    ((follow api r x).1.emitted = r.1.emitted ∧ (follow api r x).1.newest = r.1.newest) ∨
      (follow api r x).2 = r.2 ∧ r.1.newest ≠ r.1.watcher.query.read r.2.cache ∧
        (follow api r x).1.emitted = r.1.emitted ++ [r.1.watcher.query.read r.2.cache] ∧
        (follow api r x).1.newest = r.1.watcher.query.read r.2.cache := by
  cases x with
  | store x => exact .inl (hear_emitted _ _)
  | view x =>
    cases x with
    | take =>
      rcases r.1.watcher.take_cases r.2.cache with ⟨hnone, hlast⟩ | ⟨hne, hsome, hlast⟩
      · refine .inl ⟨?_, hlast⟩
        show r.1.emitted ++ (r.1.watcher.take r.2.cache).2.toList = _
        rw [hnone, Option.toList_none, List.append_nil]
      · refine .inr ⟨rfl, hne, ?_, hlast⟩
        show r.1.emitted ++ (r.1.watcher.take r.2.cache).2.toList = _
        rw [hsome, Option.toList_some]
    | refresh =>
      left
      show (r.1.refresh api r.2).1.emitted = _ ∧ (r.1.refresh api r.2).1.newest = _
      unfold refresh
      split
      · exact hear_emitted _ _
      · exact ⟨rfl, rfl⟩
    | write w =>
      left
      unfold follow step
      dsimp only
      split
      · exact hear_emitted _ _
      · exact ⟨rfl, rfl⟩

/-! ## A run -/

/-- What a query answers anew in the course of a run: its answer after each step that changes it. -/
def changes (q : LiveQuery) (r : LiveView × Store σ) : List (ViewStep σ) → List Emission
  | [] => []
  | x :: rest =>
    let r' := follow api r x
    (if q.read r'.2.cache = q.read r.2.cache then [] else [q.read r'.2.cache]) ++ changes q r' rest

/-- What a view would emit if it read again now. -/
def owed (v : LiveView) (c : Cache) : List Emission :=
  if v.newest = v.watcher.query.read c then [] else [v.watcher.query.read c]

/-- What a view emits in the course of a run: answers of its query at some moments of the run, each
at a later one than the emission before it and different from that; and no more of them than the
run changes the answer, but for one that was owed when the run began. -/
structure Emits (r : LiveView × Store σ) (steps : List (ViewStep σ)) (new : List Emission) :
    Prop where
  emitted : (followAll api r steps).1.emitted = r.1.emitted ++ new
  reached : ∃ times : List Nat, times.Pairwise (· < ·) ∧ (∀ k ∈ times, 0 < k ∧ k ≤ steps.length) ∧
    new = times.map fun k => r.1.watcher.query.read (followAll api r (steps.take k)).2.cache
  changed : new.Sublist (r.1.owed r.2.cache ++ changes api r.1.watcher.query r steps)
  differs : (r.1.newest :: new).IsChain (· ≠ ·)

variable {api} {r : LiveView × Store σ} {x : ViewStep σ} {steps : List (ViewStep σ)}
  {new : List Emission} {q : LiveQuery}

theorem owed_sublist (v : LiveView) (c : Cache) :
    (v.owed c).Sublist [v.watcher.query.read c] := by
  unfold owed
  split
  · exact List.nil_sublist _
  · exact List.Sublist.refl _

/-- The moments of a run, seen from one step earlier. -/
theorem reached_cons {first times : List Nat} {n : Nat} (hfirst : first = [] ∨ first = [1])
    (hlt : times.Pairwise (· < ·)) (hle : ∀ k ∈ times, 0 < k ∧ k ≤ n) :
    (first ++ times.map (· + 1)).Pairwise (· < ·) ∧
      ∀ k ∈ first ++ times.map (· + 1), 0 < k ∧ k ≤ n + 1 := by
  have hlater : (times.map (· + 1)).Pairwise (· < ·) :=
    List.pairwise_map.mpr (hlt.imp fun h => Nat.add_lt_add_right h 1)
  have hmem : ∀ k ∈ times.map (· + 1), 1 < k ∧ k ≤ n + 1 := by
    intro k hk
    obtain ⟨j, hj, rfl⟩ := List.mem_map.mp hk
    have := hle j hj
    omega
  rcases hfirst with rfl | rfl
  · refine ⟨hlater, fun k hk => ?_⟩
    have := hmem k hk
    omega
  · refine ⟨List.pairwise_cons.mpr ⟨fun k hk => (hmem k hk).1, hlater⟩, fun k hk => ?_⟩
    rcases List.mem_cons.mp hk with rfl | hk
    · omega
    · have := hmem k hk
      omega

/-- A step that emits nothing leaves the emissions to the rest of the run. -/
theorem Emits.cons_of_quiet (hemitted : (follow api r x).1.emitted = r.1.emitted)
    (hnewest : (follow api r x).1.newest = r.1.newest)
    (h : Emits api (follow api r x) steps new) : Emits api r (x :: steps) new where
  emitted := h.emitted.trans (congrArg (· ++ new) hemitted)
  reached := by
    obtain ⟨times, hlt, hle, rfl⟩ := h.reached
    obtain ⟨hlt, hle⟩ := reached_cons (.inl rfl) hlt hle
    refine ⟨_, hlt, hle, ?_⟩
    rw [List.nil_append, List.map_map, follow_query]
    rfl
  changed := by
    refine h.changed.trans ?_
    rw [follow_query, changes]
    by_cases hread : r.1.watcher.query.read (follow api r x).2.cache =
        r.1.watcher.query.read r.2.cache
    · -- what was owed is owed still
      have howed : (follow api r x).1.owed (follow api r x).2.cache = r.1.owed r.2.cache := by
        rw [owed, owed, hnewest, follow_query, hread]
      rw [if_pos hread, howed, List.nil_append]
    · -- the new answer takes the place of what was owed
      rw [if_neg hread, ← List.append_assoc]
      refine List.Sublist.append ?_ (List.Sublist.refl _)
      have howed := owed_sublist (follow api r x).1 (follow api r x).2.cache
      rw [follow_query] at howed
      exact howed.trans (List.sublist_append_right _ _)
  differs := hnewest ▸ h.differs

/-- A step that emits something puts it in front of the emissions of the rest of the run. -/
theorem Emits.cons_of_emitted (hsame : (follow api r x).2 = r.2)
    (hne : r.1.newest ≠ r.1.watcher.query.read r.2.cache)
    (hemitted : (follow api r x).1.emitted = r.1.emitted ++ [r.1.watcher.query.read r.2.cache])
    (hnewest : (follow api r x).1.newest = r.1.watcher.query.read r.2.cache)
    (h : Emits api (follow api r x) steps new) :
    Emits api r (x :: steps) (r.1.watcher.query.read r.2.cache :: new) where
  emitted := by
    show (followAll api (follow api r x) steps).1.emitted = _
    rw [h.emitted, hemitted, List.append_assoc, List.singleton_append]
  reached := by
    obtain ⟨times, hlt, hle, rfl⟩ := h.reached
    obtain ⟨hlt, hle⟩ := reached_cons (.inr rfl) hlt hle
    refine ⟨_, hlt, hle, ?_⟩
    have hnow : (followAll api r ((x :: steps).take 1)).2 = r.2 := by
      rw [List.take_succ_cons, List.take_zero]
      exact hsame
    rw [List.singleton_append, List.map_cons, List.map_map, follow_query, hnow]
    rfl
  changed := by
    have howed : (follow api r x).1.owed (follow api r x).2.cache = [] := by
      rw [owed, hnewest, follow_query, hsame, if_pos rfl]
    have hchanged := h.changed
    rw [howed, follow_query, List.nil_append] at hchanged
    rw [changes, owed, if_neg hne, hsame, if_pos rfl, List.nil_append]
    exact hchanged.cons_cons _
  differs := List.isChain_cons_cons.mpr ⟨hne, hnewest ▸ h.differs⟩

/-- **The emissions of a run follow the changes of the answer.** -/
theorem emits_followAll (api : ServerApi σ) (r : LiveView × Store σ) (steps : List (ViewStep σ)) :
    ∃ new, Emits api r steps new := by
  induction steps generalizing r with
  | nil =>
    exact ⟨[], (List.append_nil _).symm, ⟨[], List.Pairwise.nil, by simp, rfl⟩,
      List.nil_sublist _, .singleton _⟩
  | cons x rest ih =>
    obtain ⟨new, hnew⟩ := ih (follow api r x)
    rcases follow_cases api r x with ⟨hemitted, hnewest⟩ | ⟨hsame, hne, hemitted, hnewest⟩
    · exact ⟨_, hnew.cons_of_quiet hemitted hnewest⟩
    · exact ⟨_, hnew.cons_of_emitted hsame hne hemitted hnewest⟩

/-- A view that shows what its query answers emits nothing while the answer stays. -/
theorem emitted_of_unchanged (hshown : r.1.newest = r.1.watcher.query.read r.2.cache)
    (hsame : changes api r.1.watcher.query r steps = []) :
    (followAll api r steps).1.emitted = r.1.emitted := by
  obtain ⟨new, hnew⟩ := emits_followAll api r steps
  have hchanged := hnew.changed
  rw [owed, if_pos hshown, hsame] at hchanged
  rw [hnew.emitted, List.sublist_nil.mp hchanged, List.append_nil]

/-! ## Other chats -/

/-- A step that is not about the messages of a chat.  The refresh of a view of them is. -/
def Apart (api : ServerApi σ) (chatId : String) (s : Store σ) : ViewStep σ → Prop
  | .view .take => True
  | .view .refresh => False
  | .view (.write w) => w.Spares chatId
  | .store x => x.Spares api s chatId

/-- Steps none of which is about the messages of a chat. -/
def AllApart (api : ServerApi σ) (chatId : String) (r : LiveView × Store σ) :
    List (ViewStep σ) → Prop
  | [] => True
  | x :: rest => Apart api chatId r.2 x ∧ AllApart api chatId (follow api r x) rest

theorem read_of_apart {chatId : String} (h : Apart api chatId r.2 x) :
    (LiveQuery.messages chatId).read (follow api r x).2.cache =
      (LiveQuery.messages chatId).read r.2.cache := by
  refine congrArg Emission.messages (Cache.messagesOf_congr ?_)
  cases x with
  | store x => exact Store.chatRows_step_of_spares api h
  | view x =>
    cases x with
    | take => rfl
    | refresh => exact h.elim
    | write w =>
      unfold follow step
      dsimp only
      split
      · rename_i hw
        exact CacheWrite.chatRows_of_spares h hw
      · rfl

/-- **What goes on in other chats changes nothing** for a view of the messages of a chat. -/
theorem changes_of_allApart {chatId : String} (h : AllApart api chatId r steps) :
    changes api (.messages chatId) r steps = [] := by
  induction steps generalizing r with
  | nil => rfl
  | cons x rest ih => rw [changes, if_pos (read_of_apart h.1), ih h.2, List.append_nil]

/-! ## The refresh -/

/-- The requests that an operation adds to the trace of a store. -/
def newRequests (before after : Store σ) : List ChatRequest :=
  (after.requests.drop before.requests.length).map (·.1)

/-- What a view asks the server in the course of a run. -/
def asked (api : ServerApi σ) (r : LiveView × Store σ) : List (ViewStep σ) → List ChatRequest
  | [] => []
  | x :: rest =>
    (match x with
      | .view _ => newRequests r.2 (follow api r x).2
      | .store _ => []) ++ asked api (follow api r x) rest

theorem newRequests_of_eq {s t : Store σ} {rs : List ChatRequest}
    (h : t.requests.map (·.1) = s.requests.map (·.1) ++ rs) : newRequests s t = rs := by
  have hlength : (s.requests.map (·.1)).length = s.requests.length := List.length_map _
  rw [newRequests, List.map_drop, h, ← hlength, List.drop_left]

theorem requests_refreshFor (api : ServerApi σ) (s : Store σ) (q : LiveQuery) :
    (s.refreshFor api q).requests.map (·.1) = s.requests.map (·.1) ++ [q.request] := by
  cases q with
  | chats => exact Store.requests_refreshChats
  | messages chatId => exact Store.requests_refreshMessages

/-- A refresh asks the server if it is the first of its view, and is the last one then. -/
theorem follow_refresh (api : ServerApi σ) (r : LiveView × Store σ) :
    (follow api r (.view .refresh)).1.refreshing = false ∧
      newRequests r.2 (follow api r (.view .refresh)).2 =
        if r.1.refreshing then [r.1.watcher.query.request] else [] := by
  show (r.1.refresh api r.2).1.refreshing = false ∧ newRequests r.2 (r.1.refresh api r.2).2 = _
  unfold refresh
  by_cases h : r.1.refreshing = true
  · rw [if_pos h, if_pos h]
    exact ⟨rfl, newRequests_of_eq (requests_refreshFor api r.2 _)⟩
  · rw [if_neg h, if_neg h]
    exact ⟨Bool.eq_false_iff.mpr h, newRequests_of_eq (List.append_nil _).symm⟩

/-- No other step of a view asks the server, or has to do with its refresh. -/
theorem follow_view_of_ne (api : ServerApi σ) (r : LiveView × Store σ) {x : LiveStep}
    (hx : x ≠ .refresh) :
    (follow api r (.view x)).1.refreshing = r.1.refreshing ∧
      newRequests r.2 (follow api r (.view x)).2 = [] := by
  cases x with
  | refresh => exact absurd rfl hx
  | take => exact ⟨rfl, newRequests_of_eq (List.append_nil _).symm⟩
  | write w =>
    unfold follow step
    dsimp only
    split
    · refine ⟨rfl, newRequests_of_eq ?_⟩
      rw [Store.commit_requests, List.append_nil]
    · exact ⟨rfl, newRequests_of_eq (List.append_nil _).symm⟩

/-- **A view asks the server once**, if its refresh is to come and has its turn. -/
theorem asked_eq (api : ServerApi σ) (steps : List (ViewStep σ)) (r : LiveView × Store σ) :
    (r.1.refreshing = true → .view .refresh ∈ steps →
      asked api r steps = [r.1.watcher.query.request]) ∧
    (r.1.refreshing = false ∨ .view .refresh ∉ steps → asked api r steps = []) := by
  induction steps generalizing r with
  | nil => exact ⟨fun _ hmem => (List.not_mem_nil hmem).elim, fun _ => rfl⟩
  | cons x rest ih =>
    have hrest := ih (follow api r x)
    rw [follow_query] at hrest
    cases x with
    | store x =>
      have hsame : (follow api r (.store x)).1.refreshing = r.1.refreshing := rfl
      rw [hsame] at hrest
      simpa [asked] using hrest
    | view x =>
      by_cases hx : x = .refresh
      · subst hx
        obtain ⟨hdone, hnew⟩ := follow_refresh api r
        have hlast := hrest.2 (.inl hdone)
        constructor
        · intro hrefreshing _
          rw [asked, hnew, hlast, if_pos hrefreshing]
          rfl
        · intro h
          have hrefreshing : r.1.refreshing = false :=
            h.resolve_right fun hno => hno (List.mem_cons_self ..)
          rw [asked, hnew, hlast, hrefreshing]
          rfl
      · obtain ⟨hsame, hnew⟩ := follow_view_of_ne api r hx
        rw [hsame] at hrest
        have hne : (ViewStep.view LiveStep.refresh : ViewStep σ) ≠ .view x :=
          fun h => hx (ViewStep.view.inj h).symm
        simpa [asked, hnew, hne] using hrest

theorem refreshFor_of_fails {s : Store σ} {e : Failure} (h : s.Fails api q.request e) :
    s.Leaves (s.refreshFor api q) s.cache [] [q.request] := by
  cases q with
  | chats => exact (Store.refreshChats_of_fails h).2
  | messages chatId => exact (Store.refreshMessages_of_fails h).2

/-- **A refresh that fails leaves the view as it was**, and the cache with it. -/
theorem follow_refresh_of_fails {e : Failure}
    (h : r.2.Fails api r.1.watcher.query.request e) :
    (follow api r (.view .refresh)).1 = { r.1 with refreshing := false } ∧
      (follow api r (.view .refresh)).2.cache = r.2.cache := by
  show (r.1.refresh api r.2).1 = _ ∧ (r.1.refresh api r.2).2.cache = _
  have hleaves := refreshFor_of_fails h
  unfold refresh
  by_cases hrefreshing : r.1.refreshing = true
  · rw [if_pos hrefreshing]
    dsimp only
    rw [newEvents_of_eq hleaves.events]
    exact ⟨rfl, hleaves.cache⟩
  · rw [if_neg hrefreshing]
    have hfalse := Bool.eq_false_iff.mpr hrefreshing
    exact ⟨by rw [← hfalse], rfl⟩

/-! ## The discipline -/

/-- **What a live view emits follows the changes of its query's answer.**  First comes the answer at
the moment the view is opened, before its refresh.  Each later emission is the answer at some
later moment than the emission before it, and differs from that one; and the emissions are no more
than the changes.  The server is asked once, if the refresh has its turn, and a refresh that fails
leaves the view and the cache as they were.  However the run went, a view that catches up shows the
answer.  A view that shows it emits nothing in the course of steps that do not change it; for the
messages of a chat these are all steps that are not about them. -/
theorem emissions_follow_changes (api : ServerApi σ) (q : LiveQuery) (s : Store σ)
    (early : List CacheEvent) (steps : List (ViewStep σ)) :
    let opened : LiveView × Store σ := ((start q s).hear early, s)
    let r := followAll api opened steps
    (∃ later : List Emission, r.1.emitted = q.read s.cache :: later ∧
      (∃ times : List Nat, times.Pairwise (· < ·) ∧ (∀ k ∈ times, 0 < k ∧ k ≤ steps.length) ∧
        later = times.map fun k => q.read (followAll api opened (steps.take k)).2.cache) ∧
      (q.read s.cache :: later).IsChain (· ≠ ·) ∧
      later.Sublist (changes api q opened steps)) ∧
    (.view .refresh ∈ steps → asked api opened steps = [q.request]) ∧
    (.view .refresh ∉ steps → asked api opened steps = []) ∧
    (∀ e, r.2.Fails api q.request e →
      (follow api r (.view .refresh)).1 = { r.1 with refreshing := false } ∧
      (follow api r (.view .refresh)).2.cache = r.2.cache) ∧
    (r.1.catchUp r.2.cache).emitted.getLast? = some (q.read r.2.cache) ∧
    (∀ idle, r.1.newest = q.read r.2.cache → changes api q r idle = [] →
      (followAll api r idle).1.emitted = r.1.emitted) ∧
    ∀ chatId idle, q = .messages chatId → AllApart api chatId r idle →
      changes api q r idle = [] := by
  intro opened r
  have hquery : opened.1.watcher.query = q := hear_query (start q s) early
  have hshown : opened.1.newest = q.read s.cache := (hear_emitted (start q s) early).2
  have htracks : r.1.Tracks q r.2.cache :=
    Tracks.followAll api (r := opened) ((tracks_start q s).hear_idle early) steps
  obtain ⟨later, hlater⟩ := emits_followAll api opened steps
  have hasked := asked_eq api steps opened
  refine ⟨⟨later, hlater.emitted, ?_, ?_, ?_⟩, ?_, fun hno => hasked.2 (.inr hno), ?_, ?_, ?_, ?_⟩
  · obtain ⟨times, hlt, hle, heq⟩ := hlater.reached
    rw [hquery] at heq
    exact ⟨times, hlt, hle, heq⟩
  · have hdiffers := hlater.differs
    rwa [hshown] at hdiffers
  · have hchanged := hlater.changed
    rwa [owed, hquery, if_pos hshown] at hchanged
  · intro hmem
    have hone := hasked.1 rfl hmem
    rwa [hquery] at hone
  · intro e hfails
    rw [← htracks.query] at hfails
    exact follow_refresh_of_fails hfails
  · have hcaught : (r.1.catchUp r.2.cache).Tracks q r.2.cache := htracks.takes _
    exact hcaught.getLast?_emitted (catchUp_backlog r.1 r.2.cache)
  · intro idle hnewest hsame
    rw [← htracks.query] at hnewest hsame
    exact emitted_of_unchanged hnewest hsame
  · rintro chatId idle rfl hapart
    exact changes_of_allApart hapart

theorem emissions_follow_changes_offline :
    let q := LiveQuery.messages "c"
    let opened := ((start q Store.offlineStore).hear [.chats], Store.offlineStore)
    let r := followAll InMemoryServer.api opened [.view .refresh, .view .take, .view .refresh]
    let idle : List (ViewStep InMemoryServer) :=
      [.store (.call (.sendMessage "d" "Anyone?")), .store (.write (.deleteChat "d")), .view .take,
        .view .take]
    asked InMemoryServer.api opened [.view .refresh, .view .take, .view .refresh] =
      [.getChat "c"] ∧
    r.2.Fails InMemoryServer.api q.request (.network "get_chat: connection refused") ∧
    (follow InMemoryServer.api r (.view .refresh)).1 = { r.1 with refreshing := false } ∧
    AllApart InMemoryServer.api "c" r idle ∧
    r.1.newest = q.read r.2.cache ∧
    (followAll InMemoryServer.api r idle).1.emitted = r.1.emitted := by
  intro q opened r idle
  obtain ⟨-, hasked, -, hfailed, -, hidle, hapart⟩ := emissions_follow_changes InMemoryServer.api q
    Store.offlineStore [.chats] [.view .refresh, .view .take, .view .refresh]
  have hfails : r.2.Fails InMemoryServer.api q.request
      (.network "get_chat: connection refused") := rfl
  have hother : AllApart InMemoryServer.api "c" r idle :=
    ⟨show "d" ≠ "c" by decide, show "d" ≠ "c" by decide, trivial, trivial, trivial⟩
  have hshown : r.1.newest = q.read r.2.cache := rfl
  exact ⟨hasked (by simp), hfails, (hfailed _ hfails).1, hother, hshown,
    hidle idle hshown (hapart "c" idle rfl hother)⟩

end LiveView
end OfflineChat
