import OfflineChat.Proofs.DictEntries
import OfflineChat.Proofs.RepeatedRefreshes

/-! # Refreshes in any order

While the chats of a server do not change, what the cache holds after some
refreshes does not depend on their order, nor on how often each was made
(`Store.refreshes_settle`).  The rows of one chat are changed by two refreshes
only: that of the list, and that of the chat itself.  The second makes the first
forgotten and is not changed by it, since the server lists a chat as it answers
it (`InMemoryServer.Keyed.listed_agrees`).  So for each chat the refreshes are
steps that may change places and may be repeated.  Only the order in which rows
of different chats first came in is left open.
-/
namespace OfflineChat

namespace InMemoryServer

/-! ## Servers that keep chats under their ids -/

/-- Every chat is kept under its own id. -/
def Keyed (s : InMemoryServer) : Prop := ∀ e ∈ s.chats.entries, e.2.id = e.1

theorem keyed_empty : empty.Keyed := fun _ h => (List.not_mem_nil h).elim

namespace Keyed

variable {s : InMemoryServer} {chatId : String} {chat : Chat}

theorem put (h : s.Keyed) (hid : chat.id = chatId) :
    ({ s with chats := s.chats.insert chatId chat } : InMemoryServer).Keyed := by
  intro e he
  rcases Dict.mem_insertEntry he with rfl | he
  · exact hid
  · exact h e he

theorem insert (h : s.Keyed) (chat : Chat) : (s.insert chat).Keyed := h.put rfl

theorem id_of_find? (h : s.Keyed) (hchat : s.chats.find? chatId = some chat) : chat.id = chatId :=
  h _ (Dict.mem_entries_of_find? hchat)

theorem respond (h : s.Keyed) (e : Surroundings) (r : ChatRequest) :
    (s.respond e r).2.1.Keyed := by
  cases r with
  | fetchChats => exact h
  | getChat id =>
    unfold InMemoryServer.respond
    dsimp only
    split <;> exact h
  | createChat title => exact h.insert _
  | deleteChat id => exact fun e he => h e (List.mem_filter.mp he).1
  | sendMessage id content =>
    unfold InMemoryServer.respond
    dsimp only
    split
    · exact h
    · split
      · exact h
      · rename_i chat hchat
        have hid : chat.id = id := h.id_of_find? hchat
        exact h.put (show (withTurn chat _ _ _ _).id = id from hid)
  | searchChats text => exact h
  | toggle f id =>
    unfold InMemoryServer.respond
    dsimp only
    split
    · exact h
    · rename_i chat hchat
      have hflip : (flip chat f).id = chat.id := by cases f <;> rfl
      exact h.put (hflip.trans (h.id_of_find? hchat))
  | listModels => exact h

/-- **A server keeps its chats under their ids**, whatever it is asked. -/
theorem answer (h : s.Keyed) (r : ChatRequest) (e : Surroundings) :
    (api.answer r s e).2.1.Keyed := by
  have hcount : (s.count r.operation).Keyed := h
  unfold api
  dsimp only
  split
  · exact hcount
  · exact hcount.respond e r

end Keyed

/-! ## What a refresh makes of the cache -/

variable (s : InMemoryServer) {c : Cache} {chat : Chat} {chatId : String}

/-- The list that a server answers with, which is empty if it does not answer. -/
def listed : List ChatSummary := if s.offline then [] else s.activeSummaries

/-- The chat that a server answers with, if it does. -/
def snapshot? (chatId : String) : Option Chat :=
  if s.offline then none else s.chats.find? chatId

/-- The cache after a refresh. -/
def refreshed (c : Cache) : StoreCall → Cache
  | .refreshChats => (c.upsertSummaries s.listed).cache
  | .refreshMessages chatId => match s.snapshot? chatId with
    | some chat => (c.applySnapshot chat chat.thread).cache
    | none => c
  | _ => c

variable {s}

theorem find?_of_snapshot? (h : s.snapshot? chatId = some chat) :
    s.chats.find? chatId = some chat := by
  unfold snapshot? at h
  split at h
  · cases h
  · exact h

/-- **A server lists a chat as it answers it.** -/
theorem Keyed.listed_agrees (h : s.Keyed) (hchat : s.snapshot? chatId = some chat) :
    ∀ t ∈ (s.listed.filter (·.id == chatId)).getLast?, t = chat.summary := by
  intro t ht
  obtain ⟨hlisted, hid⟩ := List.mem_filter.mp (List.mem_of_getLast? ht)
  have hactive : t ∈ s.activeSummaries := by
    unfold listed at hlisted
    split at hlisted
    · cases hlisted
    · exact hlisted
  obtain ⟨chat', hvalue, rfl⟩ := List.mem_map.mp (List.mem_mergeSort.mp hactive)
  obtain ⟨⟨k, chat''⟩, hentry, rfl⟩ := List.mem_map.mp (List.mem_filter.mp hvalue).1
  have hkey : chat''.id = k := h _ hentry
  obtain rfl : k = chatId := hkey.symm.trans (eq_of_beq hid)
  have hfound := (Dict.find?_of_mem_entries hentry).symm.trans (find?_of_snapshot? hchat)
  rw [Option.some.inj hfound]

/-! ## What a refresh makes of one chat -/

/-- The part of a chat after a refresh, made of that part alone. -/
def refreshedPart (s : InMemoryServer) (chatId : String) (c : Cache) : StoreCall → Cache
  | .refreshChats => (c.upsertSummaries (s.listed.filter (·.id == chatId))).cache
  | .refreshMessages id => if id = chatId then s.refreshed c (.refreshMessages id) else c
  | _ => c

theorem part_refreshed (h : s.Keyed) (c : Cache) (call : StoreCall) (chatId : String) :
    (s.refreshed c call).part chatId = s.refreshedPart chatId (c.part chatId) call := by
  cases call with
  | refreshChats => exact Cache.part_upsertSummaries c s.listed chatId
  | refreshMessages id =>
    unfold refreshedPart refreshed
    dsimp only
    cases hchat : s.snapshot? id with
    | none => exact (ite_self _).symm
    | some chat =>
      obtain rfl : chat.id = id := h.id_of_find? (find?_of_snapshot? hchat)
      have hlocal := Cache.local_applySnapshot chat chat.thread
      by_cases hid : chat.id = chatId
      · subst hid
        rw [if_pos rfl]
        exact hlocal.part_self c
      · rw [if_neg hid]
        exact hlocal.part_of_ne hid c
  | _ => rfl

/-- To one chat a refresh does one of three things: nothing, what the list says of it, or what the
server answers about it. -/
theorem refreshedPart_cases (s : InMemoryServer) (chatId : String) (call : StoreCall) :
    (∀ c, s.refreshedPart chatId c call = c) ∨
    (∀ c, s.refreshedPart chatId c call =
      (c.upsertSummaries (s.listed.filter (·.id == chatId))).cache) ∨
    ∃ chat, s.snapshot? chatId = some chat ∧
      ∀ c, s.refreshedPart chatId c call = (c.applySnapshot chat chat.thread).cache := by
  cases call with
  | refreshChats => exact .inr (.inl fun _ => rfl)
  | refreshMessages id =>
    unfold refreshedPart refreshed
    dsimp only
    by_cases hid : id = chatId
    · subst hid
      cases hchat : s.snapshot? id with
      | none => exact .inl fun c => ite_self c
      | some chat => exact .inr (.inr ⟨chat, rfl, fun c => if_pos rfl⟩)
    · exact .inl fun c => if_neg hid
  | _ => exact .inl fun _ => rfl

theorem refreshedPart_again (s : InMemoryServer) (chatId : String) (c : Cache)
    (call : StoreCall) :
    s.refreshedPart chatId (s.refreshedPart chatId c call) call =
      s.refreshedPart chatId c call := by
  rcases s.refreshedPart_cases chatId call with h | h | ⟨chat, -, h⟩
  · rw [h, h]
  · rw [h, h, Cache.upsertSummaries_upsertSummaries]
  · rw [h, h, Cache.applySnapshot_applySnapshot]

/-- **For one chat, refreshes may change places.** -/
theorem refreshedPart_comm (h : s.Keyed) (chatId : String) (c : Cache) (call call' : StoreCall) :
    s.refreshedPart chatId (s.refreshedPart chatId c call) call' =
      s.refreshedPart chatId (s.refreshedPart chatId c call') call := by
  -- the list before a snapshot is forgotten, and after it adds nothing
  have hswap {chat : Chat} (hchat : s.snapshot? chatId = some chat) (c : Cache) :
      ((c.upsertSummaries (s.listed.filter (·.id == chatId))).cache.applySnapshot chat
        chat.thread).cache =
      ((c.applySnapshot chat chat.thread).cache.upsertSummaries
        (s.listed.filter (·.id == chatId))).cache := by
    have hagrees := h.listed_agrees hchat
    obtain rfl : chat.id = chatId := h.id_of_find? (find?_of_snapshot? hchat)
    have hids : ∀ t ∈ s.listed.filter (·.id == chat.id), t.id = chat.id := fun t ht =>
      eq_of_beq (List.mem_filter.mp ht).2
    rw [Cache.applySnapshot_upsertSummaries hids, Cache.upsertSummaries_applySnapshot hids hagrees]
  -- but for those two, one of the steps does nothing or both are the same
  rcases s.refreshedPart_cases chatId call with hc | hc | ⟨chat, hchat, hc⟩ <;>
    rcases s.refreshedPart_cases chatId call' with hc' | hc' | ⟨chat', hchat', hc'⟩
  · simp only [hc, hc']
  · simp only [hc, hc']
  · simp only [hc, hc']
  · simp only [hc, hc']
  · simp only [hc, hc']
  · simp only [hc, hc', hswap hchat']
  · simp only [hc, hc']
  · simp only [hc, hc', hswap hchat]
  · obtain rfl : chat = chat' := Option.some.inj (hchat.symm.trans hchat')
    simp only [hc, hc']

end InMemoryServer

/-! ## Runs of refreshes -/

/-- An operation that only refreshes the cache. -/
def StoreCall.IsRefresh : StoreCall → Prop
  | .refreshChats | .refreshMessages _ => True
  | _ => False

namespace Store

/-- Carry out operations one after the other. -/
def callAll {σ : Type} (api : ServerApi σ) (s : Store σ) (calls : List StoreCall) : Store σ :=
  calls.foldl (fun s call => (call.run api s).2) s

/-- A server that is off line counts the call and refuses. -/
theorem ask_of_offline {s : Store InMemoryServer} (h : s.server.offline = true) (r : ChatRequest) :
    s.ask InMemoryServer.api r =
      (.error (.network (r.operation ++ ": connection refused")), { s with
        server := s.server.count r.operation, trace := s.trace ++ [.asked r s.cache] }) := by
  have hcount : (s.server.count r.operation).offline = true := h
  unfold ask InMemoryServer.api
  dsimp only
  rw [if_pos hcount]

/-- A server that can be reached counts the call and answers. -/
theorem ask_of_online {s : Store InMemoryServer} (h : s.server.offline = false) (r : ChatRequest) :
    s.ask InMemoryServer.api r =
      let answer := (s.server.count r.operation).respond s.surroundings r
      (answer.1, { s with
        server := answer.2.1, surroundings := answer.2.2,
        trace := s.trace ++ [.asked r s.cache] }) := by
  have hcount : ¬ (s.server.count r.operation).offline = true := by
    rw [show (s.server.count r.operation).offline = s.server.offline from rfl, h]
    exact Bool.false_ne_true
  unfold ask InMemoryServer.api
  dsimp only
  rw [if_neg hcount]

/-- A refresh does to the cache what the server's answer says, and to the server nothing but that
the call is counted. -/
theorem run_of_isRefresh (s : Store InMemoryServer) {call : StoreCall} (h : call.IsRefresh) :
    (call.run InMemoryServer.api s).2.cache = s.server.refreshed s.cache call ∧
      ∃ counted, (call.run InMemoryServer.api s).2.server = { s.server with calls := counted } := by
  cases call with
  | refreshChats =>
    rw [StoreCall.run, InMemoryServer.refreshed, InMemoryServer.listed, refreshChats]
    cases hoffline : s.server.offline with
    | true =>
      rw [ask_of_offline hoffline]
      exact ⟨rfl, _, rfl⟩
    | false =>
      rw [ask_of_online hoffline]
      exact ⟨rfl, _, rfl⟩
  | refreshMessages chatId =>
    rw [StoreCall.run, InMemoryServer.refreshed, InMemoryServer.snapshot?, refreshMessages]
    cases hoffline : s.server.offline with
    | true =>
      rw [ask_of_offline hoffline]
      exact ⟨rfl, _, rfl⟩
    | false =>
      have hchats : (s.server.count "get_chat").chats = s.server.chats := rfl
      rw [ask_of_online hoffline]
      dsimp only [InMemoryServer.respond, ChatRequest.operation]
      rw [hchats, if_neg Bool.false_ne_true]
      cases s.server.chats.find? chatId with
      | none => exact ⟨rfl, _, rfl⟩
      | some chat => exact ⟨rfl, _, rfl⟩
  | _ => exact h.elim

/-- **A run of refreshes does to the cache what the answers of one server say.** -/
theorem callAll_refreshes (s : Store InMemoryServer) {calls : List StoreCall}
    (hcalls : ∀ call ∈ calls, call.IsRefresh) :
    (s.callAll InMemoryServer.api calls).cache = calls.foldl s.server.refreshed s.cache := by
  induction calls generalizing s with
  | nil => rfl
  | cons call rest ih =>
    obtain ⟨hcache, counted, hserver⟩ :=
      s.run_of_isRefresh (hcalls call (List.mem_cons_self ..))
    have hsame : (call.run InMemoryServer.api s).2.server.refreshed = s.server.refreshed := by
      rw [hserver]
      rfl
    have hrest := ih (call.run InMemoryServer.api s).2
      fun call h => hcalls call (List.mem_cons_of_mem _ h)
    rw [hsame, hcache] at hrest
    exact hrest

/-- The part of a chat after a run of refreshes. -/
theorem part_callAll {s : Store InMemoryServer} (hs : s.server.Keyed) {calls : List StoreCall}
    (hcalls : ∀ call ∈ calls, call.IsRefresh) (chatId : String) :
    (s.callAll InMemoryServer.api calls).cache.part chatId =
      calls.foldl (s.server.refreshedPart chatId) (s.cache.part chatId) := by
  rw [s.callAll_refreshes hcalls]
  generalize s.cache = c
  induction calls generalizing c with
  | nil => rfl
  | cons call rest ih =>
    have hrest := ih (fun call h => hcalls call (List.mem_cons_of_mem _ h))
      (s.server.refreshed c call)
    rw [InMemoryServer.part_refreshed hs] at hrest
    exact hrest

/-- **Two runs of the same refreshes leave the same**, in whatever order and however often each was
made, up to the order in which rows of different chats first came in. -/
theorem callAll_agree {s : Store InMemoryServer} (hs : s.server.Keyed) {calls calls' : List StoreCall}
    (hcalls : ∀ call ∈ calls, call.IsRefresh) (hsame : ∀ call, call ∈ calls ↔ call ∈ calls')
    (chatId : String) :
    Cache.AgreeOn chatId (s.callAll InMemoryServer.api calls).cache
      (s.callAll InMemoryServer.api calls').cache := by
  have hcalls' : ∀ call ∈ calls', call.IsRefresh := fun call h => hcalls call ((hsame call).mpr h)
  refine Cache.agreeOn_of_part ?_
  rw [part_callAll hs hcalls, part_callAll hs hcalls']
  exact foldl_eq_of_mem_iff (fun c => InMemoryServer.refreshedPart_comm hs chatId c)
    (s.server.refreshedPart_again chatId) hsame _

end Store

namespace Cache

variable {c d : Cache}

/-- Caches that agree on every chat have the same rows in every table. -/
theorem perm_of_agreeOn (h : ∀ chatId, AgreeOn chatId c d) :
    c.chats.Perm d.chats ∧ c.messages.Perm d.messages ∧ c.attachments.Perm d.attachments ∧
      c.layout = d.layout := by
  have hlayout : (c.part "").layout = (d.part "").layout := congrArg Cache.layout (h "").rows
  exact ⟨perm_of_filter_key fun chatId => congrArg Cache.chats (h chatId).rows,
    perm_of_filter_key fun chatId => congrArg Cache.messages (h chatId).rows,
    perm_of_filter_key fun chatId => congrArg Cache.attachments (h chatId).rows,
    hlayout⟩

end Cache

namespace Store

/-- **Refreshing settles.**  A snapshot that is applied again changes nothing, nor does a list; a
live view that has caught up after the first time emits nothing the second time.  A list and a
snapshot that agree about the chat leave the same rows of every chat, the same messages in the same
order and the same attachments, whichever comes first.  So over a server whose chats do not change,
two runs of the same refreshes, in any order and each any number of times, leave the same rows of
every chat, and every query about one has the same answer; only the order in which rows of different
chats first came in may differ. -/
theorem refreshes_settle :
    (∀ (c : Cache) (chat : Chat) (thread : List Message),
      ((c.applySnapshot chat thread).cache.applySnapshot chat thread).cache =
        (c.applySnapshot chat thread).cache) ∧
    (∀ (c : Cache) (ss : List ChatSummary),
      ((c.upsertSummaries ss).cache.upsertSummaries ss).cache = (c.upsertSummaries ss).cache) ∧
    (∀ {σ : Type} (api : ServerApi σ) (q : LiveQuery) (s : Store σ) (steps : List (ViewStep σ))
      (w : CacheWrite), w.IsRefresh →
      let r := LiveView.followAll api (LiveView.start q s, s) (steps ++ [.store (.write w)])
      let r' := LiveView.follow api (r.1.catchUp r.2.cache, r.2) (.store (.write w))
      (r'.1.catchUp r'.2.cache).emitted = (r.1.catchUp r.2.cache).emitted) ∧
    (∀ (c : Cache) (chat : Chat) (thread : List Message) (ss : List ChatSummary),
      (∀ t ∈ (ss.filter (·.id == chat.id)).getLast?, t = chat.summary) →
      let d := ((c.upsertSummaries ss).cache.applySnapshot chat thread).cache
      let d' := ((c.applySnapshot chat thread).cache.upsertSummaries ss).cache
      (∀ chatId, d.chats.filter (·.id == chatId) = d'.chats.filter (·.id == chatId)) ∧
      d.messages = d'.messages ∧ d.attachments = d'.attachments ∧ d.layout = d'.layout) ∧
    ∀ (s : Store InMemoryServer) (calls calls' : List StoreCall), s.server.Keyed →
      (∀ call ∈ calls, call.IsRefresh) → (∀ call, call ∈ calls ↔ call ∈ calls') →
      let d := (s.callAll InMemoryServer.api calls).cache
      let d' := (s.callAll InMemoryServer.api calls').cache
      (∀ chatId, Cache.AgreeOn chatId d d') ∧ d.chats.Perm d'.chats ∧
      d.messages.Perm d'.messages ∧ d.attachments.Perm d'.attachments ∧ d.layout = d'.layout := by
  refine ⟨Cache.applySnapshot_applySnapshot, Cache.upsertSummaries_upsertSummaries, ?_, ?_, ?_⟩
  · intro σ api q s steps w hw r r'
    have hlast : r = LiveView.follow api (LiveView.followAll api (LiveView.start q s, s) steps)
        (.store (.write w)) := List.foldl_concat _ _ _ _
    have htracks : r.1.Tracks q r.2.cache :=
      LiveView.Tracks.followAll api (LiveView.tracks_start q s) _
    have hcache : r.2.cache =
        (LiveView.followAll api (LiveView.start q s, s) steps).2.cache.write w := by
      rw [hlast]
      exact cache_write _ w
    refine LiveView.silent_of_unchanged api htracks ?_
    rw [hcache]
    exact Cache.write_write_of_isRefresh hw _
  · intro c chat thread ss hagrees d d'
    refine ⟨fun chatId => congrArg Cache.chats (Cache.part_swap hagrees thread chatId), ?_⟩
    simp only [d, d', Cache.upsertSummaries_cache, Cache.applySnapshot_cache, and_self]
  · intro s calls calls' hs hcalls hsame d d'
    have hagree := callAll_agree hs hcalls hsame
    exact ⟨hagree, Cache.perm_of_agreeOn hagree⟩

/-- A store with the chats of a server that has one of them only since the last refresh. -/
def lateStore : Store InMemoryServer where
  cache := Cache.keptCache
  server := (InMemoryServer.empty.insert (InMemoryServer.chatOfThread "c" "Tides" ["When?"])).insert
    (InMemoryServer.chatOfThread "e" "Rain" ["Where?", "Here."])
  surroundings := ⟨20, fun _ => "new", 0⟩
  defaultTitle := usualTitle
  trace := []

theorem refreshes_settle_late :
    let chat := InMemoryServer.chatOfThread "c" "Tides" ["When?"]
    let w : CacheWrite := .applySnapshot chat chat.thread
    let calls : List StoreCall := [.refreshChats, .refreshMessages "c", .refreshMessages "e"]
    let calls' : List StoreCall :=
      [.refreshMessages "e", .refreshMessages "c", .refreshChats, .refreshMessages "e"]
    w.IsRefresh ∧ lateStore.server.Keyed ∧ (∀ call ∈ calls, call.IsRefresh) ∧
    (∀ call, call ∈ calls ↔ call ∈ calls') ∧
    (let r := LiveView.followAll InMemoryServer.api (LiveView.start .chats lateStore, lateStore)
        ([] ++ [.store (.write w)])
      let r' := LiveView.follow InMemoryServer.api (r.1.catchUp r.2.cache, r.2) (.store (.write w))
      (r'.1.catchUp r'.2.cache).emitted = (r.1.catchUp r.2.cache).emitted) ∧
    ((Cache.keptCache.upsertSummaries [chat.summary]).cache.applySnapshot chat
      chat.thread).cache.messages =
      ((Cache.keptCache.applySnapshot chat chat.thread).cache.upsertSummaries
        [chat.summary]).cache.messages ∧
    Cache.AgreeOn "e" (lateStore.callAll InMemoryServer.api calls).cache
      (lateStore.callAll InMemoryServer.api calls').cache := by
  intro chat w calls calls'
  obtain ⟨-, -, hsilent, hswap, hruns⟩ := refreshes_settle
  have hkeyed : lateStore.server.Keyed := (InMemoryServer.keyed_empty.insert _).insert _
  have hcalls : ∀ call ∈ calls, call.IsRefresh := by
    simp only [calls, List.forall_mem_cons, List.not_mem_nil]
    exact ⟨trivial, trivial, trivial, fun _ h => h.elim⟩
  have hsame : ∀ call, call ∈ calls ↔ call ∈ calls' := by
    intro call
    simp only [calls, calls', List.mem_cons, List.not_mem_nil]
    tauto
  have hagrees : ∀ t ∈ ([chat.summary].filter (·.id == chat.id)).getLast?, t = chat.summary := by
    decide
  exact ⟨trivial, hkeyed, hcalls, hsame,
    hsilent InMemoryServer.api .chats lateStore [] w trivial,
    (hswap Cache.keptCache chat chat.thread [chat.summary] hagrees).2.1,
    (hruns lateStore calls calls' hkeyed hcalls hsame).1 "e"⟩

end Store
end OfflineChat
